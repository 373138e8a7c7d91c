import SourceFacts.Disk.Files

namespace SourceFacts.Disk

/-!
# Paths of things in a directory

The path of something in a directory has the names of the path of the directory
and one more.
-/

open Text

/-! ## Names -/

/-- A text that is a name of something in a directory. -/
structure IsName (name : String) : Prop where
  nonempty : name ≠ ""
  noSlash : '/' ∉ name.toList
  noNul : '\x00' ∉ name.toList
  notHere : name ≠ "."
  notAbove : name ≠ ".."
  short : name.utf8ByteSize ≤ maxNameLength

instance (name : String) : Decidable (IsName name) :=
  decidable_of_iff
    (name ≠ "" ∧ '/' ∉ name.toList ∧ '\x00' ∉ name.toList ∧ name ≠ "." ∧ name ≠ ".." ∧
      name.utf8ByteSize ≤ maxNameLength)
    ⟨fun ⟨nonempty, noSlash, noNul, notHere, notAbove, short⟩ =>
        ⟨nonempty, noSlash, noNul, notHere, notAbove, short⟩,
      fun isName => ⟨isName.nonempty, isName.noSlash, isName.noNul, isName.notHere,
        isName.notAbove, isName.short⟩⟩

namespace Path

/-- A text that is no path of its own ends in what it is put before. -/
theorem isAbsolute_eq_false_of_noSlash
    {name : String}
    (noSlash : '/' ∉ name.toList) :
    isAbsolute name = false := by
  have slash : "/".toList = ['/'] := rfl
  rw [isAbsolute, beginsWith, slash]
  cases shape : name.toList with
  | nil =>
      rfl
  | cons first more =>
      have differs : '/' ≠ first := by
        rintro rfl
        rw [shape] at noSlash
        exact noSlash List.mem_cons_self
      simp [List.isPrefixOf, differs]

/-- A path ends with a slash if its last character is one. -/
theorem endsWithSlash_iff
    {path : String} :
    endsWithSlash path = true ↔ ∃ chars, path.toList = chars ++ ['/'] := by
  have slash : "/".toList = ['/'] := rfl
  rw [endsWithSlash, endsWith, slash, List.isSuffixOf_iff_suffix]
  constructor
  · rintro ⟨chars, shape⟩
    exact ⟨chars, shape.symm⟩
  · rintro ⟨chars, shape⟩
    exact ⟨chars, shape.symm⟩

/-! ## Segments -/

/-- There is always a segment. -/
theorem segments_ne_nil (chars : List Char) : segments chars ≠ [] := by
  unfold segments
  split
  · simp
  · simp
  · split <;> simp

/-- A slash separates the segments before it from those after it. -/
theorem segments_append_slash
    (chars rest : List Char) :
    segments (chars ++ '/' :: rest) = segments chars ++ segments rest := by
  induction chars with
  | nil =>
      rfl
  | cons c more inductionHypothesis =>
      by_cases isSlash : c = '/'
      · subst c
        rw [List.cons_append, segments, segments, inductionHypothesis]
        rfl
      · rw [List.cons_append, segments, segments, inductionHypothesis]
        · cases shape : segments more with
          | nil =>
              exact absurd shape (segments_ne_nil more)
          | cons first others =>
              rfl
        · exact isSlash
        · exact isSlash

/-- Characters without a slash are one segment. -/
theorem segments_of_noSlash
    {chars : List Char}
    (noSlash : '/' ∉ chars) :
    segments chars = [chars] := by
  induction chars with
  | nil =>
      rfl
  | cons c more inductionHypothesis =>
      rw [List.mem_cons, not_or] at noSlash
      rw [segments, inductionHypothesis noSlash.2]
      exact fun isSlash => noSlash.1 isSlash.symm

/-- Segments with slashes between them are the characters again. -/
theorem join_segments (chars : List Char) :
    join "/" ((segments chars).map String.ofList) = String.ofList chars := by
  induction chars with
  | nil =>
      rfl
  | cons c more inductionHypothesis =>
      by_cases isSlash : c = '/'
      · subst c
        have others : (segments more).map String.ofList ≠ [] := by
          simpa using segments_ne_nil more
        rw [segments, List.map_cons, join, String.intercalate_cons_of_ne_nil others, ← join,
          inductionHypothesis]
        have slash : "/" = String.ofList ['/'] := rfl
        rw [slash, ← String.ofList_append, ← String.ofList_append]
        rfl
      · rw [segments]
        · cases shape : segments more with
          | nil =>
              exact absurd shape (segments_ne_nil more)
          | cons first others =>
              rw [shape, List.map_cons] at inductionHypothesis
              have split :
                  String.ofList (c :: first) = String.ofList [c] ++ String.ofList first := by
                rw [← String.ofList_append]
                rfl
              dsimp only
              rw [List.map_cons, split, join, String.intercalate_cons_append, ← join,
                inductionHypothesis, ← String.ofList_append]
              rfl
        · exact isSlash

/-! ## Children -/

variable {path name : String}

/-- A path with a name is the path, a slash if it does not end with one, and the name. -/
theorem toList_child
    (isPath : path ≠ "")
    (isName : IsName name) :
    (child path name).toList =
      path.toList ++ (if endsWithSlash path then [] else ['/']) ++ name.toList := by
  have slash : "/".toList = ['/'] := rfl
  rw [child, isAbsolute_eq_false_of_noSlash isName.noSlash]
  by_cases ends : endsWithSlash path = true
  · simp [isPath, ends]
  · simp [isPath, ends, slash]

/-- The size of a path with a name. -/
theorem utf8ByteSize_child
    (isPath : path ≠ "")
    (isName : IsName name) :
    (child path name).utf8ByteSize =
      path.utf8ByteSize + (if endsWithSlash path then 0 else 1) + name.utf8ByteSize := by
  have slash : "/".utf8ByteSize = 1 := rfl
  rw [child, isAbsolute_eq_false_of_noSlash isName.noSlash]
  by_cases ends : endsWithSlash path = true
  · simp [isPath, ends]
  · simp [isPath, ends, slash]

/-- A name is one segment after those of the directory. -/
theorem segments_child
    (isPath : path ≠ "")
    (isName : IsName name) :
    ∃ outer, segments (child path name).toList = outer ++ [name.toList] ∧
      outer.filter (!·.isEmpty) = (segments path.toList).filter (!·.isEmpty) := by
  rw [toList_child isPath isName]
  by_cases ends : endsWithSlash path = true
  · obtain ⟨chars, shape⟩ := endsWithSlash_iff.mp ends
    refine ⟨segments chars, ?_, ?_⟩
    · rw [if_pos ends, List.append_nil, shape, List.append_assoc, List.singleton_append,
        segments_append_slash, segments_of_noSlash isName.noSlash]
    · rw [shape, segments_append_slash]
      simp [segments]
  · refine ⟨segments path.toList, ?_, rfl⟩
    rw [if_neg ends, List.append_assoc, List.singleton_append, segments_append_slash,
      segments_of_noSlash isName.noSlash]

/-- A path with a name has one name more. -/
theorem names_child
    (isPath : path ≠ "")
    (isName : IsName name) :
    names (child path name) = names path ++ [name] := by
  obtain ⟨outer, shape, sameNames⟩ := segments_child isPath isName
  have nameChars : name.toList ≠ [] := by
    simpa using isName.nonempty
  rw [names, shape, List.filter_append, sameNames, List.map_append, ← names]
  simp [nameChars, String.ofList_toList]

/-- A path with a name is not empty. -/
theorem child_ne_empty
    (isPath : path ≠ "")
    (isName : IsName name) :
    child path name ≠ "" := by
  have nameChars : name.toList ≠ [] := by
    simpa using isName.nonempty
  intro isEmpty
  have chars := toList_child isPath isName
  rw [isEmpty] at chars
  simp [nameChars] at chars

/-- A path with a name begins where the path does. -/
theorem isAbsolute_child
    (isPath : path ≠ "")
    (isName : IsName name) :
    isAbsolute (child path name) = isAbsolute path := by
  have slash : "/".toList = ['/'] := rfl
  rw [isAbsolute, isAbsolute, beginsWith, beginsWith, slash, toList_child isPath isName]
  cases shape : path.toList with
  | nil =>
      exact absurd (String.toList_eq_nil_iff.mp shape) isPath
  | cons first more =>
      simp [List.isPrefixOf]

/-- The last character of a path with a name is no slash. -/
theorem exists_last_child
    (isPath : path ≠ "")
    (isName : IsName name) :
    ∃ chars last, (child path name).toList = chars ++ [last] ∧ last ≠ '/' := by
  rw [toList_child isPath isName]
  rcases List.eq_nil_or_concat name.toList with isEmpty | ⟨chars, last, shape⟩
  · exact absurd (String.toList_eq_nil_iff.mp isEmpty) isName.nonempty
  · rw [List.concat_eq_append] at shape
    refine ⟨_, last, by rw [shape, ← List.append_assoc], ?_⟩
    rintro rfl
    exact isName.noSlash (by simp [shape])

/-- A path with a name does not end with a slash. -/
theorem endsWithSlash_child
    (isPath : path ≠ "")
    (isName : IsName name) :
    endsWithSlash (child path name) = false := by
  obtain ⟨chars, last, shape, noSlash⟩ := exists_last_child isPath isName
  rw [← Bool.not_eq_true, endsWithSlash_iff]
  rintro ⟨other, ending⟩
  rw [shape] at ending
  exact noSlash (List.singleton_inj.mp (List.append_inj_right' ending rfl))

/-- A path with a name has no slashes at its end. -/
theorem withoutSlashes_child
    (isPath : path ≠ "")
    (isName : IsName name) :
    withoutSlashes (child path name) = child path name := by
  obtain ⟨chars, last, shape, noSlash⟩ := exists_last_child isPath isName
  have kept :
      ((child path name).toList.reverse.dropWhile (· = '/')).reverse =
        (child path name).toList := by
    rw [shape]
    simp [noSlash]
  rw [withoutSlashes, kept]
  split
  · rfl
  · exact String.ofList_toList

/-- The steps of a path with a name are the names of the path and the name. -/
theorem steps_child
    (isPath : path ≠ "")
    (isName : IsName name) :
    steps (child path name) = names path ++ [name] := by
  rw [steps, names_child isPath isName, endsWithSlash_child isPath isName]
  simp

/-- A text without slashes is one step. -/
theorem steps_of_noSlash
    (noSlash : '/' ∉ name.toList)
    (notEmpty : name ≠ "") :
    steps name = [name] := by
  have someChars : name.toList.isEmpty = false := by
    simpa [List.isEmpty_eq_false_iff] using notEmpty
  have isOpen : endsWithSlash name = false := by
    rw [← Bool.not_eq_true, endsWithSlash_iff]
    rintro ⟨chars, ending⟩
    exact noSlash (by simp [ending])
  rw [steps, isOpen, names, segments_of_noSlash noSlash]
  simp [someChars, String.ofList_toList]

/-- A name is one step. -/
theorem steps_of_isName (isName : IsName name) : steps name = [name] :=
  steps_of_noSlash isName.noSlash isName.nonempty

/-- A path with a name ends in no dots. -/
theorem endsInDots_child
    (isPath : path ≠ "")
    (isName : IsName name) :
    endsInDots (child path name) = false := by
  rw [endsInDots, names_child isPath isName, List.getLast?_concat]
  split
  · rename_i isHere
    exact absurd (Option.some.inj isHere) isName.notHere
  · rename_i isAbove
    exact absurd (Option.some.inj isAbove) isName.notAbove
  · rfl

/-- A path with a name has one part more. -/
theorem parts_child
    (isPath : path ≠ "")
    (isName : IsName name) :
    parts (child path name) = parts path ++ [name] := by
  have notHere := isName.notHere
  rw [parts, parts, names_child isPath isName, isAbsolute_child isPath isName]
  cases names path with
  | nil =>
      simp [notHere]
  | cons first more =>
      have filtered :
          (more ++ [name]).filter (· ≠ ".") = more.filter (· ≠ ".") ++ [name] := by
        simp [notHere]
      rw [List.cons_append]
      dsimp only
      rw [filtered]
      split
      · rfl
      · rw [List.cons_append]

/-- The last part of a path with a name is the name. -/
theorem getLast?_parts_child
    (isPath : path ≠ "")
    (isName : IsName name) :
    (parts (child path name)).getLast? = some name := by
  rw [parts_child isPath isName, List.getLast?_concat]

/-- The file name of a path with a name is the name. -/
theorem fileName?_child
    (isPath : path ≠ "")
    (isName : IsName name) :
    fileName? (child path name) = some name := by
  rw [fileName?, getLast?_parts_child isPath isName]
  split
  · rename_i isHere
    exact absurd (Option.some.inj isHere) isName.notHere
  · rename_i isAbove
    exact absurd (Option.some.inj isAbove) isName.notAbove
  · rename_i isMissing
    exact absurd isMissing (by simp)
  · rename_i same
    exact same.symm

/-- A name is not silent. -/
theorem isSilent_of_isName
    (isName : IsName name) :
    isSilent name.toList = false := by
  have notHere : name.toList ≠ ['.'] := by
    intro isHere
    have same : name.toList = ".".toList := isHere
    exact isName.notHere (String.toList_inj.mp same)
  simp [isSilent, isName.nonempty, notHere]

/-- Pieces that end with one that says something stay as they are. -/
theorem trimmed_of_last
    {last : List Char}
    (isHeard : isSilent last = false)
    (outer : List (List Char)) :
    trimmed (outer ++ [last]) = outer ++ [last] := by
  cases outer with
  | nil =>
      rfl
  | cons first more =>
      simp [trimmed, isHeard]

/-- The directory of something in a directory that is itself given by a name. -/
theorem parent?_child
    {directory : String}
    (isPath : path ≠ "")
    (isDirectory : IsName directory)
    (isName : IsName name) :
    parent? (child (child path directory) name) = some (child path directory) := by
  have isParent := child_ne_empty isPath isDirectory
  have parentOpen := endsWithSlash_child isPath isDirectory
  obtain ⟨outer, shape, _⟩ := segments_child isPath isDirectory
  have pieces :
      segments (child (child path directory) name).toList =
        outer ++ [directory.toList] ++ [name.toList] := by
    rw [toList_child isParent isName, parentOpen, ← shape]
    simp only [Bool.false_eq_true, ↓reduceIte]
    rw [List.append_assoc, List.singleton_append, segments_append_slash,
      segments_of_noSlash isName.noSlash]
  have someParts : (parts (child (child path directory) name)).isEmpty = false := by
    have last := getLast?_parts_child isParent isName
    cases noParts : parts (child (child path directory) name) with
    | nil =>
        rw [noParts] at last
        exact absurd last (by simp)
    | cons first more =>
        rfl
  rw [parent?, someParts, pieces, trimmed_of_last (isSilent_of_isName isName),
    List.dropLast_concat, trimmed_of_last (isSilent_of_isName isDirectory), ← shape]
  have notTop : segments (child path directory).toList ≠ [[]] := by
    rw [shape]
    intro isTop
    cases outer with
    | nil =>
        rw [List.nil_append, List.singleton_inj] at isTop
        exact isDirectory.nonempty (String.toList_eq_nil_iff.mp isTop)
    | cons first more =>
        simp at isTop
  rw [if_neg (by simp)]
  split
  · rename_i isTop
    exact absurd isTop notTop
  · rw [join_segments, String.ofList_toList]

end Path

end SourceFacts.Disk
