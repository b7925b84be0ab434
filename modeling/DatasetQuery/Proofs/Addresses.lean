import DatasetQuery.Uri
import Mathlib.Data.List.TakeWhile
/-!
Addresses as they are read and written. What is read is well-formed, and the text of what is
well-formed is read as the same address, unless it is longer than addresses can be.
-/
namespace DatasetQuery

/-- A scheme that its own text is read as. -/
structure Scheme.WellFormed (s : Scheme) : Prop where
  chars : ∀ c ∈ s.text.toList, Uri.isSchemeChar c = true
  short : s.text.toList.length ≤ Uri.longestScheme
  known : Uri.schemeOf s.text.toList = s

namespace Scheme

theorem wellFormed_http : http.WellFormed :=
  ⟨by simp [text, Uri.isSchemeChar], by decide, by decide⟩

theorem wellFormed_https : https.WellFormed :=
  ⟨by simp [text, Uri.isSchemeChar], by decide, by decide⟩

end Scheme

/-- A resource below the root, without marks that would end its parts. -/
structure Resource.WellFormed (r : Resource) : Prop where
  rooted : r.path.toList.head? = some '/'
  path : ∀ c ∈ r.path.toList, Uri.isPathChar c = true ∧ c ≠ '?' ∧ c ≠ '#'
  query : ∀ q ∈ r.query, ∀ c ∈ q.toList, Uri.isQueryChar c = true ∧ c ≠ '#'

namespace Uri

/-- A text that is nothing but an authority. -/
structure IsAuthority (a : List Char) : Prop where
  nonempty : a ≠ []
  inside : ∀ c ∈ a, isDelimiter c = false
  sound : checkAuthority a = .ok ()

/-- The addresses that are read from texts. A star is no authority. -/
inductive WellFormed : Uri → Prop where
  | service : WellFormed (resource ⟨"*", none⟩)
  | resource {r : Resource} (below : r.WellFormed) : WellFormed (resource r)
  | authority {a : String} (sound : IsAuthority a.toList) (other : a ≠ "*") :
      WellFormed (authority a)
  | absolute {s : Scheme} {a : String} {r : Resource} (scheme : s.WellFormed)
      (sound : IsAuthority a.toList) (below : r.WellFormed) : WellFormed (absolute s a r)

/-- A text in two parts, the front of it as long as its characters are of a kind. -/
structure Cut (p : Char → Bool) (cs front rest : List Char) : Prop where
  whole : cs = front ++ rest
  inside : ∀ c ∈ front, p c = true
  stop : ∀ c ∈ rest.head?, p c = false

namespace Cut

variable {p : Char → Bool} {cs front rest : List Char}

theorem takeWhile_eq (parts : Cut p cs front rest) : cs.takeWhile p = front := by
  have stopped : rest.takeWhile p = [] := by
    cases rest with
    | nil => rfl
    | cons c rest => simp [parts.stop c rfl]
  rw [parts.whole, List.takeWhile_append_of_pos parts.inside, stopped, List.append_nil]

theorem drop_eq (parts : Cut p cs front rest) : cs.drop front.length = rest := by
  rw [parts.whole, List.drop_left]

theorem of_takeWhile (p : Char → Bool) (cs : List Char) :
    Cut p cs (cs.takeWhile p) (cs.drop (cs.takeWhile p).length) := by
  have dropped : cs.drop (cs.takeWhile p).length = cs.dropWhile p := by
    conv => enter [1, 2]; rw [← List.takeWhile_append_dropWhile (p := p) (l := cs)]
    exact List.drop_left
  rw [dropped]
  refine ⟨List.takeWhile_append_dropWhile.symm, fun _ => List.mem_takeWhile_imp, ?_⟩
  intro c next
  have stopped := List.head?_dropWhile_not p cs
  rw [next] at stopped
  exact stopped

end Cut

/-! Resources. -/

theorem readQuery_eq {cs : List Char} (chars : ∀ c ∈ cs, isQueryChar c = true ∧ c ≠ '#') :
    readQuery cs = .ok cs := by
  have whole : cs.takeWhile (fun c => decide (c ≠ '#')) = cs :=
    List.takeWhile_eq_self_iff.2 fun c among => decide_eq_true (chars c among).2
  have valid : cs.all isQueryChar = true := List.all_eq_true.2 fun c among => (chars c among).1
  simp only [readQuery, whole, valid, if_true]

theorem of_readQuery {cs query : List Char} (read : readQuery cs = .ok query) :
    ∀ c ∈ query, isQueryChar c = true ∧ c ≠ '#' := by
  simp only [readQuery] at read
  split at read
  · next valid =>
    cases read
    intro c among
    have before := List.mem_takeWhile_imp among
    exact ⟨List.all_eq_true.1 valid c among, of_decide_eq_true before⟩
  · cases read

/-- What follows a path in the text of a resource. -/
def queryChars : Option String → List Char
  | some query => '?' :: query.toList
  | none => []

theorem toList_text_resource (r : Resource) :
    r.text.toList = r.path.toList ++ queryChars r.query := by
  obtain ⟨path, query⟩ := r
  cases query <;> simp [Resource.text, queryChars]

theorem readResource_text {r : Resource} (below : r.WellFormed) :
    readResource r.text.toList = .ok r := by
  obtain ⟨path, query⟩ := r
  have parts : Cut (fun c => c ≠ '?' && c ≠ '#') (Resource.text ⟨path, query⟩).toList path.toList
      (queryChars query) := by
    refine ⟨toList_text_resource _, ?_, ?_⟩
    · intro c among
      simp [(below.path c among).2]
    · cases query <;> simp [queryChars]
  have valid : path.toList.all isPathChar = true :=
    List.all_eq_true.2 fun c among => (below.path c among).1
  have nonempty : path.toList.isEmpty = false := by
    have rooted := below.rooted
    cases chars : path.toList with
    | nil => simp [chars] at rooted
    | cons c cs => rfl
  simp only [readResource, parts.takeWhile_eq, parts.drop_eq, nonempty, valid, if_true,
    String.ofList_toList, Bool.false_eq_true, if_false]
  cases query with
  | none => rfl
  | some query =>
    simp only [queryChars, readQuery_eq (below.query query rfl)]
    simp [bind, Except.bind, pure, Except.pure]

/-- The path of a resource that starts at a delimiter, or where the text ends. -/
theorem shown_path {cs path rest : List Char} (start : ∀ c ∈ cs.head?, isDelimiter c = true)
    (parts : Cut (fun c => c ≠ '?' && c ≠ '#') cs path rest)
    (valid : path.all isPathChar = true) :
    let shown := if path.isEmpty then "/" else String.ofList path
    shown.toList.head? = some '/' ∧ ∀ c ∈ shown.toList, isPathChar c = true ∧ c ≠ '?' ∧ c ≠ '#' := by
  have inside (c : Char) (among : c ∈ path) : c ≠ '?' ∧ c ≠ '#' := by
    simpa using parts.inside c among
  cases path with
  | nil =>
    refine ⟨rfl, fun c root => ?_⟩
    obtain rfl := List.mem_singleton.1 root
    decide
  | cons c path =>
    have first : c = '/' := by
      have delimiter := start c (by simp [parts.whole])
      have other := inside c List.mem_cons_self
      simpa [isDelimiter, other] using delimiter
    subst first
    have text : (String.ofList ('/' :: path)).toList = '/' :: path := String.toList_ofList
    refine ⟨congrArg List.head? text, fun c shown => ?_⟩
    have among : c ∈ '/' :: path := text ▸ shown
    exact ⟨List.all_eq_true.1 valid c among, inside c among⟩

theorem wellFormed_of_readResource {cs : List Char} {r : Resource}
    (start : ∀ c ∈ cs.head?, isDelimiter c = true) (read : readResource cs = .ok r) :
    r.WellFormed := by
  simp only [readResource] at read
  split at read
  · next valid =>
    obtain ⟨rooted, path⟩ := shown_path start (.of_takeWhile _ cs) valid
    split at read
    · next rest _ =>
      cases queried : readQuery rest with
      | error reason =>
        rw [queried] at read
        cases read
      | ok query =>
        rw [queried] at read
        cases read
        refine ⟨rooted, path, ?_⟩
        rintro _ ⟨⟩
        rw [String.toList_ofList]
        exact of_readQuery queried
    · cases read
      exact ⟨rooted, path, nofun⟩
  · cases read

/-! Schemes. -/

theorem wellFormed_schemeOf {name : List Char} (chars : ∀ c ∈ name, isSchemeChar c = true)
    (short : name.length ≤ longestScheme) : (schemeOf name).WellFormed := by
  unfold schemeOf
  split
  · exact Scheme.wellFormed_http
  · split
    · exact Scheme.wellFormed_https
    · next http https =>
      have text : (Scheme.other (String.ofList name)).text.toList = name := String.toList_ofList
      rw [← text] at chars short
      refine ⟨chars, short, ?_⟩
      rw [text, schemeOf, if_neg http, if_neg https]

theorem readScheme_text {s : Scheme} (scheme : s.WellFormed) {rest : List Char}
    (more : rest ≠ []) :
    readScheme (s.text.toList ++ ':' :: '/' :: '/' :: rest) = .ok (some s, rest) := by
  have parts : Cut isSchemeChar (s.text.toList ++ ':' :: '/' :: '/' :: rest) s.text.toList
      (':' :: '/' :: '/' :: rest) := by
    refine ⟨rfl, scheme.chars, ?_⟩
    rintro _ ⟨⟩
    decide
  have short := Nat.not_lt.2 scheme.short
  have nonempty : rest.isEmpty = false := List.isEmpty_eq_false_iff.2 more
  simp only [readScheme, parts.takeWhile_eq, parts.drop_eq, nonempty, Bool.and_false,
    Bool.false_eq_true, if_false, short, scheme.known]

/-- A text without a slash has no scheme. -/
theorem readScheme_of_no_slash {cs : List Char} (plain : '/' ∉ cs) :
    readScheme cs = .ok (none, cs) := by
  simp only [readScheme]
  split
  · next rest found =>
    have slash : '/' ∈ cs.drop (cs.takeWhile isSchemeChar).length := by
      simp [found]
    exact absurd (List.mem_of_mem_drop slash) plain
  · rfl

/-- Where no scheme is read, nothing is taken off. -/
theorem rest_of_readScheme {cs rest : List Char} (read : readScheme cs = .ok (none, rest)) :
    rest = cs := by
  simp only [readScheme] at read
  split at read
  · split at read
    · cases read
      rfl
    · split at read
      · cases read
      · cases read
  · cases read
    rfl

theorem wellFormed_of_readScheme {cs rest : List Char} {s : Scheme}
    (read : readScheme cs = .ok (some s, rest)) : s.WellFormed := by
  simp only [readScheme] at read
  split at read
  · split at read
    · cases read
    · split at read
      · cases read
      · next short =>
        cases read
        exact wellFormed_schemeOf (Cut.of_takeWhile _ cs).inside (Nat.not_lt.1 short)
  · cases read

/-! Addresses with an authority. -/

/-- An authority up to a resource, or to the end of the text. -/
theorem cut_authority {a rest : List Char} (sound : IsAuthority a)
    (start : ∀ c ∈ rest.head?, isDelimiter c = true) :
    Cut (fun c => !isDelimiter c) (a ++ rest) a rest := by
  refine ⟨rfl, fun c among => ?_, fun c next => ?_⟩
  · rw [sound.inside c among, Bool.not_false]
  · rw [start c next, Bool.not_true]

theorem isAuthority_of_cut {cs a rest : List Char} (parts : Cut (fun c => !isDelimiter c) cs a rest)
    (nonempty : a ≠ []) (sound : checkAuthority a = .ok ()) : IsAuthority a :=
  ⟨nonempty, fun c among => (Bool.not_eq_true' _).mp (parts.inside c among), sound⟩

theorem readHierarchy_authority {a : List Char} (sound : IsAuthority a) :
    readHierarchy a = .ok (authority (String.ofList a)) := by
  have plain : '/' ∉ a := fun slash => Bool.noConfusion (sound.inside _ slash)
  have parts : Cut (fun c => !isDelimiter c) (a ++ []) a [] := cut_authority sound nofun
  rw [List.append_nil] at parts
  have nonempty : a.isEmpty = false := List.isEmpty_eq_false_iff.2 sound.nonempty
  simp [readHierarchy, readScheme_of_no_slash plain, parts.takeWhile_eq, nonempty, sound.sound,
    bind, Except.bind, pure, Except.pure]

theorem start_text {r : Resource} (below : r.WellFormed) :
    ∀ c ∈ r.text.toList.head?, isDelimiter c = true := by
  intro c first
  rw [toList_text_resource, List.head?_append, below.rooted] at first
  cases first
  decide

theorem readHierarchy_absolute {s : Scheme} {a : List Char} {r : Resource} (scheme : s.WellFormed)
    (sound : IsAuthority a) (below : r.WellFormed) :
    readHierarchy (s.text.toList ++ ':' :: '/' :: '/' :: (a ++ r.text.toList)) =
      .ok (absolute s (String.ofList a) r) := by
  have parts := cut_authority sound (start_text below)
  have more : a ++ r.text.toList ≠ [] := fun none => sound.nonempty (List.append_eq_nil_iff.1 none).1
  have nonempty : a.isEmpty = false := List.isEmpty_eq_false_iff.2 sound.nonempty
  simp [readHierarchy, readScheme_text scheme more, parts.takeWhile_eq, nonempty, sound.nonempty,
    sound.sound, readResource_text below, bind, Except.bind, pure, Except.pure]

/-- What is read is an authority alone, or a scheme with an authority and a resource. -/
theorem readHierarchy_cases {cs : List Char} {u : Uri} (read : readHierarchy cs = .ok u) :
    (IsAuthority cs ∧ u = authority (String.ofList cs)) ∨
      ∃ s a tail r rest, readScheme cs = .ok (some s, rest) ∧ IsAuthority a ∧
        Cut (fun c => !isDelimiter c) rest a tail ∧ readResource tail = .ok r ∧
        u = absolute s (String.ofList a) r := by
  simp only [readHierarchy, bind, Except.bind, pure, Except.pure] at read
  split at read
  · cases read
  · next found scheme =>
    obtain ⟨s?, rest⟩ := found
    simp only at read
    split at read
    · cases read
    · next more =>
      have parts := Cut.of_takeWhile (fun c => !isDelimiter c) rest
      generalize rest.takeWhile (fun c => !isDelimiter c) = a at read parts
      generalize rest.drop a.length = tail at read parts
      split at read
      · cases read
      · next sound =>
        cases s? with
        | none =>
          -- Nothing was taken off for a scheme, so that the authority is the whole text.
          obtain rfl := rest_of_readScheme scheme
          simp only at read
          split at read
          · next ended =>
            cases read
            have whole : rest = a := by
              rw [parts.whole, List.isEmpty_iff.1 ended, List.append_nil]
            subst whole
            have nonempty : rest ≠ [] := fun none => more (List.isEmpty_iff.2 none)
            exact .inl ⟨isAuthority_of_cut parts nonempty sound, rfl⟩
          · cases read
        | some s =>
          simp only at read
          split at read
          · cases read
          · next present =>
            split at read
            · cases read
            · next r resource =>
              cases read
              have nonempty : a ≠ [] := fun none => present (List.isEmpty_iff.2 none)
              have authority := isAuthority_of_cut parts nonempty sound
              exact .inr ⟨s, a, tail, r, rest, scheme, authority, parts, resource, rfl⟩

theorem wellFormed_of_readHierarchy {cs : List Char} {u : Uri} (other : cs ≠ ['*'])
    (read : readHierarchy cs = .ok u) : u.WellFormed := by
  have text (a : List Char) : (String.ofList a).toList = a := String.toList_ofList
  obtain ⟨sound, rfl⟩ | ⟨s, a, tail, r, rest, scheme, sound, parts, resource, rfl⟩ :=
    readHierarchy_cases read
  · refine .authority ((text cs).symm ▸ sound) fun star => other ?_
    rw [← text cs, star]
    rfl
  · have start (c : Char) (first : c ∈ tail.head?) : isDelimiter c = true :=
      (Bool.not_eq_false' _).mp (parts.stop c first)
    exact .absolute (wellFormed_of_readScheme scheme) ((text a).symm ▸ sound)
      (wellFormed_of_readResource start resource)

/-! Texts. -/

/-- A text that neither starts with a slash nor consists of a single mark is read as an authority,
with or without a scheme. -/
theorem read_eq_readHierarchy {text : String} (short : text.utf8ByteSize ≤ longest)
    (nonempty : text.toList ≠ []) (rootless : ∀ c ∈ text.toList.head?, c ≠ '/')
    (unmarked : ∀ mark ∈ ['*', '?', '#'], text.toList ≠ [mark]) :
    read text = readHierarchy text.toList := by
  rw [Uri.read, if_neg (Nat.not_lt.2 short)]
  split
  · next chars => exact absurd chars nonempty
  · next chars => exact absurd chars (unmarked '*' (by decide))
  · next chars => exact absurd chars (unmarked '?' (by decide))
  · next chars => exact absurd chars (unmarked '#' (by decide))
  · next chars => exact absurd rfl (rootless '/' (chars ▸ rfl))
  · rfl

theorem read_authority {a : String} (sound : IsAuthority a.toList) (other : a ≠ "*")
    (short : a.utf8ByteSize ≤ longest) : read a = .ok (authority a) := by
  have rootless : ∀ c ∈ a.toList.head?, c ≠ '/' := by
    rintro c first rfl
    exact Bool.noConfusion (sound.inside _ (List.mem_of_mem_head? first))
  have unmarked : ∀ mark ∈ ['*', '?', '#'], a.toList ≠ [mark] := by
    intro mark among chars
    have inside := sound.inside mark (by simp [chars])
    simp only [List.mem_cons, List.not_mem_nil, or_false] at among
    rcases among with rfl | rfl | rfl
    · exact other (String.toList_inj.1 chars)
    · exact Bool.noConfusion inside
    · exact Bool.noConfusion inside
  rw [read_eq_readHierarchy short sound.nonempty rootless unmarked, readHierarchy_authority sound,
    String.ofList_toList]

theorem toList_text_absolute (s : Scheme) (a : String) (r : Resource) :
    (absolute s a r).text.toList =
      s.text.toList ++ ':' :: '/' :: '/' :: (a.toList ++ r.text.toList) := by
  simp [text]

theorem read_absolute {s : Scheme} {a : String} {r : Resource} (scheme : s.WellFormed)
    (sound : IsAuthority a.toList) (below : r.WellFormed)
    (short : (absolute s a r).text.utf8ByteSize ≤ longest) :
    read (absolute s a r).text = .ok (absolute s a r) := by
  have chars := toList_text_absolute s a r
  have rootless : ∀ c ∈ (absolute s a r).text.toList.head?, c ≠ '/' := by
    rintro c first rfl
    rw [chars, List.head?_append] at first
    -- Without a name the text starts with the colon, otherwise with a character of the name.
    cases name : s.text.toList with
    | nil => simp [name] at first
    | cons c name =>
      have slash : c = '/' := by simpa [name] using first
      have valid := scheme.chars c (by simp [name])
      rw [slash] at valid
      exact Bool.noConfusion valid
  have unmarked : ∀ mark ∈ ['*', '?', '#'], (absolute s a r).text.toList ≠ [mark] := by
    intro mark _ single
    have length := congrArg List.length single
    simp only [chars, List.length_append, List.length_cons, List.length_nil] at length
    omega
  have nonempty : (absolute s a r).text.toList ≠ [] := by simp [chars]
  rw [read_eq_readHierarchy short nonempty rootless unmarked, chars,
    readHierarchy_absolute scheme sound below, String.ofList_toList]

theorem read_resource {r : Resource} (below : r.WellFormed)
    (short : r.text.utf8ByteSize ≤ longest) : read r.text = .ok (resource r) := by
  have resource := readResource_text below
  have first : r.text.toList.head? = some '/' := by
    rw [toList_text_resource, List.head?_append, below.rooted]
    rfl
  rw [Uri.read, if_neg (Nat.not_lt.2 short)]
  cases chars : r.text.toList with
  | nil => simp [chars] at first
  | cons c cs =>
    obtain rfl : c = '/' := by simpa [chars] using first
    rw [chars] at resource
    simp only [resource]
    rfl

/-- The text of a well-formed address is read as that address. -/
theorem read_text {u : Uri} (sound : u.WellFormed) (short : u.text.utf8ByteSize ≤ longest) :
    read u.text = .ok u := by
  cases sound with
  | service => decide +kernel
  | resource below => exact read_resource below short
  | authority sound other => exact read_authority sound other short
  | absolute scheme sound below => exact read_absolute scheme sound below short

theorem read_of_too_long {text : String} (long : longest < text.utf8ByteSize) :
    read text = .error .tooLong := if_pos long

theorem wellFormed_of_read {text : String} {u : Uri} (parsed : read text = .ok u) :
    u.WellFormed := by
  unfold Uri.read at parsed
  split at parsed
  · cases parsed
  · split at parsed
    · cases parsed
    · cases parsed
      exact .service
    · cases parsed
    · cases parsed
    · next rest _ =>
      cases resource : readResource ('/' :: rest) with
      | error reason =>
        rw [resource] at parsed
        cases parsed
      | ok r =>
        rw [resource] at parsed
        cases parsed
        refine .resource (wellFormed_of_readResource ?_ resource)
        rintro _ ⟨⟩
        decide
    · next other _ _ _ => exact wellFormed_of_readHierarchy other parsed

end Uri

end DatasetQuery
