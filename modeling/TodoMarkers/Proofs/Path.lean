import Mathlib.Data.List.Infix
import TodoMarkers.Path
import TodoMarkers.Proofs.Text.Occurrence

/-! Paths made by joining names: what they are written as, and which of them lie under others. -/

namespace TodoMarkers.Path

/-- What a relative name is appended to: the path, with a slash at its end unless it is empty. -/
def base (path : Path) : List Char :=
  if path.toList.getLast?.all (· == '/') then path.toList else path.toList ++ ['/']

/-- A name as directories list them: it is not empty and holds no slash. -/
structure Plain (name : String) : Prop where
  /-- There is a character in it. -/
  nonempty : name ≠ ""
  /-- None of them is a slash. -/
  slashFree : '/' ∉ name.toList

instance (name : String) : Decidable (Plain name) :=
  decidable_of_iff (name ≠ "" ∧ '/' ∉ name.toList)
    ⟨fun plain => ⟨plain.1, plain.2⟩, fun plain => ⟨plain.nonempty, plain.slashFree⟩⟩

/-- The path that some names lead to from a root, one inside the other. -/
def below (root : Path) (names : List String) : Path :=
  names.foldl join root

/-- Two paths of one place, which differ in a slash at the end at most. -/
def Same (path other : Path) : Prop :=
  base path = base other

/-- A path that lies strictly under a place: something relative is joined to the place. -/
def Under (place path : Path) : Prop :=
  ∃ name, name ≠ "" ∧ isAbsolute name = false ∧ path = join place name

instance (path other : Path) : Decidable (Same path other) :=
  inferInstanceAs (Decidable (_ = _))

variable {path other place root : Path} {name : String} {names others : List String}

/-- A path is its own base, or it is made one by a slash. -/
theorem base_cases (path : Path) :
    (base path = path.toList ∧ (path.toList = [] ∨ path.toList.getLast? = some '/')) ∨
      base path = path.toList ++ ['/'] := by
  -- Whether the slash has to be added depends on the last character alone.
  unfold base
  cases last : path.toList.getLast? with
  | none => exact .inl ⟨rfl, .inl (List.getLast?_eq_none_iff.1 last)⟩
  | some c =>
    by_cases slash : c = '/'
    · simp [slash]
    · simp [slash]

/-- A base that is not empty ends with a slash. -/
theorem getLast?_base {c : Char} (last : (base path).getLast? = some c) : c = '/' := by
  -- A base is empty, or it ends with the slash of the path or with the one that is added.
  rcases base_cases path with ⟨same, empty | slash⟩ | longer
  · simp [same, empty] at last
  · rw [same, slash] at last
    exact (Option.some.inj last).symm
  · rw [longer, List.getLast?_concat] at last
    exact (Option.some.inj last).symm

/-- Two paths of one place are equal, or one of them has a slash more at its end. -/
theorem Same.cases (same : Same path other) :
    path = other ∨ path = other ++ "/" ∨ other = path ++ "/" := by
  -- The bases agree, and each of them may have added the slash or not.
  unfold Same at same
  rcases base_cases path with ⟨short, _⟩ | long <;> rcases base_cases other with ⟨brief, _⟩ | more
  · rw [short, brief] at same
    exact .inl (String.toList_inj.1 same)
  · rw [short, more] at same
    exact .inr (.inl (String.toList_inj.1 (by simpa using same)))
  · rw [long, brief] at same
    exact .inr (.inr (String.toList_inj.1 (by simpa using same.symm)))
  · rw [long, more] at same
    exact .inl (String.toList_inj.1 (List.append_cancel_right same))

/-- A relative name is appended to the base. -/
theorem toList_join (relative : isAbsolute name = false) :
    (join path name).toList = base path ++ name.toList := by
  -- The base is what the name is appended to.
  unfold join base
  rw [relative, if_neg Bool.false_ne_true]
  split <;> simp

/-- A relative name is none that starts with a slash. -/
theorem isAbsolute_eq_false_iff : isAbsolute name = false ↔ name.toList.head? ≠ some '/' := by
  -- The test looks at the first character alone.
  simp [isAbsolute]

/-- A plain name is relative. -/
theorem Plain.relative (plain : Plain name) : isAbsolute name = false :=
  -- A name without slashes does not start with one.
  isAbsolute_eq_false_iff.2 fun slash => plain.slashFree (List.mem_of_head? slash)

/-- A plain name has characters. -/
theorem Plain.toList_ne_nil (plain : Plain name) : name.toList ≠ [] :=
  -- Only the empty name has no characters.
  fun empty => plain.nonempty (String.toList_eq_nil_iff.1 empty)

/-- Behind a plain name a slash is needed before another one. -/
theorem base_join (plain : Plain name) :
    base (join path name) = base path ++ (name.toList ++ ['/']) := by
  -- A base with nothing added would end with a slash, and the name does not.
  rcases base_cases (join path name) with ⟨_, empty | slash⟩ | longer
  · rw [toList_join plain.relative, List.append_eq_nil_iff] at empty
    exact absurd empty.2 plain.toList_ne_nil
  · -- The last character is the name's, which is no slash.
    rw [toList_join plain.relative, List.getLast?_append_of_ne_nil _ plain.toList_ne_nil] at slash
    exact absurd (List.mem_of_getLast? slash) plain.slashFree
  · rw [longer, toList_join plain.relative, List.append_assoc]

/-- One more name leads from the path below to the one in it. -/
theorem below_concat (root : Path) (names : List String) (name : String) :
    below root (names ++ [name]) = join (below root names) name := by
  -- Joining goes from the left, so the last name is joined last.
  rw [below, List.foldl_append, List.foldl_cons, List.foldl_nil, below]

/-- Every plain name on the way adds itself and a slash to the base. -/
theorem base_below (plain : ∀ name ∈ names, Plain name) :
    base (below root names) = base root ++ names.flatMap fun name => name.toList ++ ['/'] := by
  -- The first name makes another root, so the root stays arbitrary.
  induction names generalizing root with
  | nil => simp [below]
  | cons first rest ih =>
    have tail : base (below (join root first) rest) =
        base (join root first) ++ rest.flatMap fun name => name.toList ++ ['/'] :=
      ih fun name member => plain name (List.mem_cons_of_mem _ member)
    rw [base_join (plain first List.mem_cons_self)] at tail
    rw [List.flatMap_cons, ← List.append_assoc]
    exact tail

/-- A plain name ends at the first slash, so it can be told from whatever follows it. -/
theorem eq_of_slash {other : String} {rest more : List Char} (plain : Plain name)
    (otherPlain : Plain other)
    (same : name.toList ++ '/' :: rest = other.toList ++ '/' :: more) :
    name = other ∧ rest = more := by
  -- Neither name holds a slash, so both end at the first one.
  obtain ⟨words, tails⟩ :=
    Text.eq_of_first_occurrence plain.slashFree otherPlain.slashFree same
  exact ⟨String.toList_inj.1 words, tails⟩

/-- Plain names can be read off the path that they lead to. -/
theorem below_inj (plain : ∀ name ∈ names, Plain name) (otherPlain : ∀ name ∈ others, Plain name)
    (same : below root names = below root others) : names = others := by
  -- Each name ends where its slash stands, so the names come off one by one.
  have written := congrArg base same
  rw [base_below plain, base_below otherPlain, List.append_cancel_left_eq] at written
  clear same
  induction names generalizing others with
  | nil =>
    cases others with
    | nil => rfl
    | cons other others => simp at written
  | cons name names ih =>
    cases others with
    | nil => simp at written
    | cons other others =>
      rw [List.forall_mem_cons] at plain otherPlain
      rw [List.flatMap_cons, List.flatMap_cons, List.append_assoc, List.append_assoc,
        List.singleton_append, List.singleton_append] at written
      obtain ⟨rfl, tails⟩ := eq_of_slash plain.1 otherPlain.1 written
      rw [ih plain.2 otherPlain.2 tails]

/-- A path is written at the head of every path made from it. -/
theorem base_prefix_join (plain : Plain name) : base path <+: base (join path name) := by
  -- The base of the longer path is that of the path with more behind it.
  rw [base_join plain]
  exact List.prefix_append _ _

/-- Of two names joined to one path neither leads to what the other leads to. -/
theorem eq_of_base_prefix {other : String} (plain : Plain name) (otherPlain : Plain other)
    (head : base (join path name) <+: base (join path other)) : name = other := by
  -- Behind the common path the one name and its slash stand at the head of the other one.
  obtain ⟨rest, written⟩ := head
  rw [base_join plain, base_join otherPlain, List.append_assoc, List.append_cancel_left_eq,
    List.append_assoc, List.singleton_append] at written
  exact (eq_of_slash plain otherPlain written).1

/-- Something that is not empty makes a path longer. -/
theorem length_lt_length_join (nonempty : name ≠ "") (relative : isAbsolute name = false) :
    path.toList.length < (join path name).toList.length := by
  -- The base is no shorter than the path, and the name has a character.
  have positive : 0 < name.toList.length :=
    List.length_pos_iff.2 fun empty => nonempty (String.toList_eq_nil_iff.1 empty)
  have grows : path.toList.length ≤ (base path).length := by
    rcases base_cases path with ⟨same, _⟩ | longer
    · rw [same]
    · simp [longer]
  rw [toList_join relative, List.length_append]
  omega

/-- A path lies under a place exactly if something that is no slash follows the place's base. -/
theorem under_iff : Under place path ↔
    ∃ c rest, path.toList = base place ++ c :: rest ∧ c ≠ '/' := by
  -- What follows the base is the name, and its first character says whether it is relative.
  constructor
  · rintro ⟨name, nonempty, relative, rfl⟩
    cases written : name.toList with
    | nil => exact absurd (String.toList_eq_nil_iff.1 written) nonempty
    | cons c rest =>
      rw [isAbsolute_eq_false_iff, written, List.head?_cons] at relative
      refine ⟨c, rest, ?_, fun slash => relative (congrArg some slash)⟩
      rw [toList_join (isAbsolute_eq_false_iff.2 (by simpa [written] using relative)), written]
  · rintro ⟨c, rest, written, solid⟩
    have relative : isAbsolute (String.ofList (c :: rest)) = false := by simp [isAbsolute, solid]
    refine ⟨String.ofList (c :: rest), fun empty => ?_, relative, String.toList_inj.1 ?_⟩
    · have none := congrArg String.toList empty
      simp at none
    · rw [toList_join relative, written, String.toList_ofList]

/-- Whether a path lies under a place, read off both texts. -/
def isUnder (place path : Path) : Bool :=
  match Text.stripPrefix? (base place) path.toList with
  | some (c :: _) => c != '/'
  | _ => false

/-- Reading the texts tells which paths lie under a place. -/
theorem isUnder_iff : isUnder place path = true ↔ Under place path := by
  -- The test asks what follows the base of the place, and whether that starts with a slash.
  rw [under_iff, isUnder]
  cases stripped : Text.stripPrefix? (base place) path.toList with
  | none =>
    refine iff_of_false Bool.false_ne_true ?_
    rintro ⟨c, rest, written, _⟩
    rw [Text.stripPrefix?_eq_some_iff.2 written] at stripped
    contradiction
  | some tail =>
    rw [Text.stripPrefix?_eq_some_iff.1 stripped]
    cases tail with
    | nil => simp
    | cons c rest => simp

instance (place path : Path) : Decidable (Under place path) :=
  decidable_of_iff _ isUnder_iff

/-- The bases of paths tell as well which of them lie under a place. -/
theorem under_iff_base : Under place path ↔
    ∃ c rest, base path = base place ++ c :: rest ∧ c ≠ '/' := by
  -- A base is the path itself, or the path with a slash behind it.
  rw [under_iff]
  rcases base_cases path with ⟨same, _⟩ | longer
  · rw [same]
  · -- The slash that the base adds comes after what follows the place.
    rw [longer]
    constructor
    · rintro ⟨c, rest, written, solid⟩
      exact ⟨c, rest ++ ['/'], by rw [written, List.append_assoc, List.cons_append], solid⟩
    · rintro ⟨c, rest, written, solid⟩
      rcases List.eq_nil_or_concat' rest with rfl | ⟨before, last, rfl⟩
      · have alone := List.append_inj_right' written rfl
        exact absurd (List.cons.inj alone).1.symm solid
      · rw [← List.cons_append, ← List.append_assoc] at written
        exact ⟨c, before, List.append_inj_left' written rfl, solid⟩

/-- Nothing stands behind a slash that follows a plain name. -/
theorem Plain.eq_nil_of_slash {before rest : List Char} (plain : Plain name)
    (same : name.toList ++ ['/'] = before ++ '/' :: rest) : rest = [] := by
  -- The slash cannot stand within the name, so it is the one behind it.
  rcases List.append_eq_append_iff.1 same with ⟨inner, _, behind⟩ | ⟨inner, within, behind⟩
  · have short := congrArg List.length behind
    simp only [List.length_append, List.length_cons, List.length_nil] at short
    exact List.length_eq_zero_iff.1 (by omega)
  · cases inner with
    | nil => exact (List.cons.inj behind).2
    | cons d inner =>
      obtain ⟨rfl, _⟩ := List.cons.inj behind
      exact absurd (by simp [within]) plain.slashFree

/-- A path with a plain name at its end lies under a place exactly if what it is joined to is the
place or lies under it. -/
theorem under_join_iff (plain : Plain name) :
    Under place (join path name) ↔ Same path place ∨ Under place path := by
  -- The base of the joined path ends with the name, and the place ends before it or within the
  -- path.
  rw [under_iff_base, under_iff_base, base_join plain]
  constructor
  · rintro ⟨c, rest, written, solid⟩
    rcases List.append_eq_append_iff.1 written with ⟨more, longer, tail⟩ | ⟨more, longer, tail⟩
    · rcases List.eq_nil_or_concat' more with rfl | ⟨before, last, rfl⟩
      · exact .inl (by rw [Same, longer, List.append_nil])
      · -- The place would end within the name, and its last slash would be followed by something.
        have stop : (base place).getLast? = some last := by
          rw [longer, ← List.append_assoc, List.getLast?_concat]
        obtain rfl : last = '/' := getLast?_base stop
        rw [List.append_assoc, List.singleton_append] at tail
        have nothing := plain.eq_nil_of_slash tail
        contradiction
    · -- The path ends with the place, or something of it follows the place.
      cases more with
      | nil => exact .inl (by rw [Same, longer, List.append_nil])
      | cons d more =>
        obtain ⟨rfl, _⟩ := List.cons.inj tail
        exact .inr ⟨c, more, longer, solid⟩
  · rintro (same | ⟨c, rest, written, solid⟩)
    · -- The name's first character follows the place.
      cases letters : name.toList with
      | nil => exact absurd letters plain.toList_ne_nil
      | cons c rest =>
        have free := plain.slashFree
        rw [letters] at free
        exact ⟨c, rest ++ ['/'], by rw [same, List.cons_append],
          fun slash => free (slash ▸ List.mem_cons_self)⟩
    · exact ⟨c, rest ++ (name.toList ++ ['/']),
        by rw [written, List.append_assoc, List.cons_append], solid⟩

end TodoMarkers.Path
