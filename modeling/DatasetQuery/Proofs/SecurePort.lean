import DatasetQuery.Agent.Endpoint
import DatasetQuery.Proofs.Addresses
import Mathlib.Data.String.Basic
/-!
Normal forms of addresses. The number of the secure port puts in the secure scheme; nothing else of
an address changes, and its normal form is its own, as long as it is short enough to be an address.
-/
namespace DatasetQuery

namespace Uri

theorem normalize_eq_error_iff (u : Uri) (reason : UriError) :
    u.normalize = .error reason ↔
      (u.portNumber? = some securePort ∧ u.scheme? = none) ∧ reason = .pathMissing := by
  unfold normalize
  cases u with
  | absolute s a r =>
    split
    · simp [withSecureScheme, scheme?]
    · simp [scheme?]
  | authority a =>
    split
    · next secure => simp [withSecureScheme, secure.1, scheme?, eq_comm]
    · next other =>
      have unsecured : (authority a).portNumber? ≠ some securePort :=
        fun secure => other ⟨secure, nofun⟩
      simp [unsecured]
  | resource r => simp [portNumber?, authority?]

/-- A normal form is the address itself, or the address with the secure scheme. -/
theorem normalize_cases {u v : Uri} (normal : u.normalize = .ok v) :
    (u.portNumber? ≠ some securePort ∧ v = u) ∨
      ∃ s a r, u = absolute s a r ∧ portOf a = some securePort ∧ v = absolute .https a r := by
  unfold normalize at normal
  split at normal
  · next replaced =>
    cases u with
    | absolute s a r =>
      cases normal
      exact .inr ⟨s, a, r, rfl, replaced.1, rfl⟩
    | authority a => cases normal
    | resource r => cases normal
  · next kept =>
    cases normal
    by_cases secure : u.portNumber? = some securePort
    · have scheme : u.scheme? = some .https := not_not.1 fun other => kept ⟨secure, other⟩
      cases u with
      | absolute s a r =>
        cases scheme
        exact .inr ⟨.https, a, r, rfl, secure, rfl⟩
      | authority a => cases scheme
      | resource r => cases scheme
    · exact .inl ⟨secure, rfl⟩

theorem wellFormed_of_normalize {u v : Uri} (sound : u.WellFormed) (normal : u.normalize = .ok v) :
    v.WellFormed := by
  obtain ⟨-, rfl⟩ | ⟨s, a, r, rfl, -, rfl⟩ := normalize_cases normal
  · exact sound
  · cases sound with
    | absolute _ sound below => exact .absolute Scheme.wellFormed_https sound below

/-- Normal forms are their own. -/
theorem normalize_normalize {u v : Uri} (normal : u.normalize = .ok v) : v.normalize = .ok v := by
  obtain ⟨other, rfl⟩ | ⟨s, a, r, rfl, -, rfl⟩ := normalize_cases normal
  · exact normal
  · exact if_neg fun replaced => replaced.2 rfl

end Uri

namespace Agent.Endpoint

open Uri

/-- The normal form of an address, with its text: nothing but the scheme can be new. -/
structure NormalForm (u v : Uri) : Prop where
  scheme : v.scheme? = some .https ↔ u.scheme? = some .https ∨ u.portNumber? = some 443
  authority : v.authority? = u.authority?
  resource : v.resource? = u.resource?
  kept : u.portNumber? ≠ some 443 ∨ u.scheme? = some .https → v = u
  again : v.text.utf8ByteSize ≤ longest → uriOf v.text = .ok v
  outgrown : longest < v.text.utf8ByteSize →
    uriOf v.text = .error (invalidAddress v.text .tooLong)

theorem uriOf_eq_ok_iff {address : String} {u : Uri} (parsed : Uri.read address = .ok u) (v : Uri) :
    uriOf address = .ok v ↔ u.normalize = .ok v := by
  simp only [uriOf, parsed]
  cases u.normalize <;> simp

theorem uriOf_eq_error_iff {address : String} {u : Uri} (parsed : Uri.read address = .ok u)
    (e : Error) :
    uriOf address = .error e ↔
      (u.portNumber? = some securePort ∧ u.scheme? = none) ∧
        e = invalidAddress address .pathMissing := by
  have failed := normalize_eq_error_iff u
  simp only [uriOf, parsed]
  cases normal : u.normalize with
  | error reason =>
    obtain ⟨why, rfl⟩ := (failed reason).1 normal
    simp [why, eq_comm]
  | ok v =>
    have complete : ¬(u.portNumber? = some securePort ∧ u.scheme? = none) := by
      intro why
      have broken := (failed .pathMissing).2 ⟨why, rfl⟩
      rw [normal] at broken
      cases broken
    simp [complete]

theorem uriOf_of_unread {address : String} {reason : UriError}
    (failed : Uri.read address = .error reason) :
    uriOf address = .error (invalidAddress address reason) := by
  simp only [uriOf, failed]

theorem normalForm_of_normalize {u v : Uri} (sound : u.WellFormed) (normal : u.normalize = .ok v) :
    NormalForm u v where
  scheme := by
    obtain ⟨other, rfl⟩ | ⟨s, a, r, rfl, secure, rfl⟩ := normalize_cases normal
    · exact (or_iff_left other).symm
    · exact ⟨fun _ => .inr secure, fun _ => rfl⟩
  authority := by
    obtain ⟨-, rfl⟩ | ⟨s, a, r, rfl, -, rfl⟩ := normalize_cases normal <;> rfl
  resource := by
    obtain ⟨-, rfl⟩ | ⟨s, a, r, rfl, -, rfl⟩ := normalize_cases normal <;> rfl
  kept := by
    obtain ⟨-, rfl⟩ | ⟨s, a, r, rfl, secure, rfl⟩ := normalize_cases normal
    · exact fun _ => rfl
    · rintro (other | already)
      · exact absurd secure other
      · cases already
        rfl
  again short := by
    have parsed := read_text (wellFormed_of_normalize sound normal) short
    exact (uriOf_eq_ok_iff parsed v).2 (normalize_normalize normal)
  outgrown long := uriOf_of_unread (read_of_too_long long)

/-- Only the secure port decides the scheme, and an address without a scheme cannot take it. -/
theorem secure_port_takes_the_secure_scheme (address : String) :
    (∀ reason, Uri.read address = .error reason →
      uriOf address = .error (invalidAddress address reason)) ∧
    ∀ u, Uri.read address = .ok u →
      (∀ v, uriOf address = .ok v → NormalForm u v) ∧
      ∀ e, uriOf address = .error e ↔
        (u.portNumber? = some 443 ∧ u.scheme? = none) ∧ e = invalidAddress address .pathMissing := by
  refine ⟨fun reason => uriOf_of_unread, fun u parsed => ⟨fun v normal => ?_, ?_⟩⟩
  · exact normalForm_of_normalize (wellFormed_of_read parsed) ((uriOf_eq_ok_iff parsed v).1 normal)
  · exact uriOf_eq_error_iff parsed

theorem secure_port_takes_the_secure_scheme_or_refuses :
    NormalForm (absolute .http "agent.example.com:443" ⟨"/v1", none⟩)
      (absolute .https "agent.example.com:443" ⟨"/v1", none⟩) ∧
    uriOf "agent.example.com:443" =
      .error (invalidAddress "agent.example.com:443" .pathMissing) ∧
    uriOf "agent.example.com/v1" =
      .error (invalidAddress "agent.example.com/v1" .invalidFormat) := by
  have parsed : Uri.read "http://agent.example.com:443/v1" =
      .ok (absolute .http "agent.example.com:443" ⟨"/v1", none⟩) := by decide +kernel
  have normal : uriOf "http://agent.example.com:443/v1" =
      .ok (absolute .https "agent.example.com:443" ⟨"/v1", none⟩) := by decide +kernel
  have alone : Uri.read "agent.example.com:443" = .ok (authority "agent.example.com:443") := by
    decide +kernel
  have unread : Uri.read "agent.example.com/v1" = .error .invalidFormat := by decide +kernel
  refine ⟨((secure_port_takes_the_secure_scheme _).2 _ parsed).1 _ normal, ?_, ?_⟩
  · exact (((secure_port_takes_the_secure_scheme _).2 _ alone).2 _).2
      ⟨⟨by decide +kernel, rfl⟩, rfl⟩
  · exact (secure_port_takes_the_secure_scheme _).1 _ unread

/-! Longest addresses. -/

theorem utf8ByteSize_absolute_https (a : String) (r : Resource) :
    (absolute .https a r).text.utf8ByteSize = (absolute .http a r).text.utf8ByteSize + 1 := by
  have secure : Scheme.https.text.utf8ByteSize = 5 := by decide
  have common : Scheme.http.text.utf8ByteSize = 4 := by decide
  simp only [text, String.utf8ByteSize_append, secure, common]
  omega

/-- The secure scheme is one byte too long for a longest address. -/
theorem outgrown_of_longest {a : String} {r : Resource} (secure : portOf a = some securePort)
    (sound : IsAuthority a.toList) (below : r.WellFormed)
    (full : (absolute .http a r).text.utf8ByteSize = longest) :
    uriOf (absolute .http a r).text = .ok (absolute .https a r) ∧
      uriOf (absolute .https a r).text =
        .error (invalidAddress (absolute .https a r).text .tooLong) := by
  have parsed := read_text (.absolute Scheme.wellFormed_http sound below) full.le
  have long : longest < (absolute .https a r).text.utf8ByteSize := by
    rw [utf8ByteSize_absolute_https, full]
    exact Nat.lt_succ_self longest
  refine ⟨(uriOf_eq_ok_iff parsed _).2 ?_, uriOf_of_unread (read_of_too_long long)⟩
  exact if_pos ⟨secure, nofun⟩

theorem utf8ByteSize_replicate (n : Nat) :
    (String.ofList (List.replicate n 'a')).utf8ByteSize = n := by
  induction n with
  | zero => rfl
  | succ n ih =>
    rw [String.utf8ByteSize_ofList] at ih ⊢
    rw [List.replicate_succ, String.utf8Len_cons, ih]
    rfl

/-- A path of one letter, over and over. -/
theorem wellFormed_replicate (n : Nat) :
    (Resource.mk ("/" ++ String.ofList (List.replicate n 'a')) none).WellFormed := by
  refine ⟨by simp, fun c among => ?_, nofun⟩
  have letters : c = '/' ∨ c ∈ List.replicate n 'a' := by simpa using among
  rcases letters with rfl | letter
  · decide
  · obtain rfl := List.eq_of_mem_replicate letter
    decide

theorem longest_address_is_outgrown_by_its_normal_form :
    let path := "/" ++ String.ofList (List.replicate 65521 'a')
    let normal := absolute .https "h:443" ⟨path, none⟩
    uriOf ("http://h:443" ++ path) = .ok normal ∧
      uriOf normal.text = .error (invalidAddress normal.text .tooLong) := by
  have sound : IsAuthority "h:443".toList :=
    ⟨by decide, by simp [isDelimiter], by decide⟩
  have below := wellFormed_replicate 65521
  have bytes := utf8ByteSize_replicate 65521
  generalize String.ofList (List.replicate 65521 'a') = letters at below bytes ⊢
  have start : "http" ++ "://" ++ "h:443" = "http://h:443" := by decide
  have address : "http://h:443" ++ ("/" ++ letters) =
      (absolute .http "h:443" ⟨"/" ++ letters, none⟩).text := by rw [← start]; rfl
  have full : (absolute .http "h:443" ⟨"/" ++ letters, none⟩).text.utf8ByteSize = longest := by
    rw [← address]
    simp only [String.utf8ByteSize_append, bytes]
    decide
  show uriOf ("http://h:443" ++ ("/" ++ letters)) = _ ∧ _
  rw [address]
  exact outgrown_of_longest (by decide +kernel) sound below full

end Agent.Endpoint

end DatasetQuery
