import SourceFacts.Proofs.Disk.Directories
import SourceFacts.Proofs.Disk.Following

namespace SourceFacts.Disk

/-!
# The last names of paths

The place that a path leads to has the last name of the path, unless the path leads to a
directory or the last name is that of a link that is followed. What comes before the last name
leads to the directory of the path's parent, and to that of its siblings.
-/

open Text Time

/-! ## File names -/

namespace Path

variable {path name : String}

theorem noSlash_of_mem_segments
    {chars segment : List Char}
    (member : segment ∈ segments chars) :
    '/' ∉ segment := by
  induction chars generalizing segment with
  | nil =>
      obtain rfl : segment = [] := by simpa [segments] using member
      simp
  | cons c more inductionHypothesis =>
      by_cases isSlash : c = '/'
      · subst c
        rw [segments, List.mem_cons] at member
        rcases member with rfl | member
        · simp
        · exact inductionHypothesis member
      · rw [segments] at member
        · cases shape : segments more with
          | nil =>
              exact absurd shape (segments_ne_nil more)
          | cons first others =>
              rw [shape] at member inductionHypothesis
              rcases List.mem_cons.mp member with rfl | member
              · have notInFirst : '/' ∉ first := inductionHypothesis List.mem_cons_self
                simp [notInFirst, Ne.symm isSlash]
              · exact inductionHypothesis (List.mem_cons_of_mem _ member)
        · exact isSlash

theorem noSlash_of_fileName?
    (isLast : fileName? path = some name) :
    '/' ∉ name.toList := by
  have isPart : name ∈ parts path := by
    rw [fileName?] at isLast
    split at isLast
    · simp at isLast
    · simp at isLast
    · simp at isLast
    · rename_i last
      obtain rfl := Option.some.inj isLast
      exact List.mem_of_getLast? last
  have isName : name ∈ names path := by
    rw [parts] at isPart
    split at isPart
    · simp at isPart
    · rename_i first rest shape
      rw [shape]
      dsimp only at isPart
      split at isPart
      · exact List.mem_cons_of_mem _ (List.mem_filter.mp isPart).1
      · rcases List.mem_cons.mp isPart with rfl | later
        · exact List.mem_cons_self
        · exact List.mem_cons_of_mem _ (List.mem_filter.mp later).1
  obtain ⟨segment, member, rfl⟩ := List.mem_map.mp isName
  rw [String.toList_ofList]
  exact noSlash_of_mem_segments (List.mem_filter.mp member).1

/-- The last step of a path is its file name unless it is a dot or two. -/
theorem fileName?_of_steps
    (last : (steps path).getLast? = some name)
    (notHere : name ≠ ".")
    (notAbove : name ≠ "..") :
    fileName? path = some name := by
  have lastName : (names path).getLast? = some name := by
    rw [steps] at last
    split at last
    · rw [List.getLast?_concat] at last
      exact absurd (Option.some.inj last).symm notHere
    · rwa [List.append_nil] at last
  obtain ⟨front, shape⟩ : ∃ front, names path = front ++ [name] :=
    List.getLast?_eq_some_iff.mp lastName
  have lastPart : (parts path).getLast? = some name := by
    rw [parts, shape]
    cases front with
    | nil =>
        simp [notHere]
    | cons first more =>
        have filtered :
            (more ++ [name]).filter (· ≠ ".") = more.filter (· ≠ ".") ++ [name] := by
          simp [notHere]
        rw [List.cons_append]
        dsimp only
        rw [filtered]
        split
        · exact List.getLast?_concat
        · rw [← List.cons_append]
          exact List.getLast?_concat
  rw [fileName?, lastPart]
  split
  · rename_i isHere
    exact absurd (Option.some.inj isHere) notHere
  · rename_i isAbove
    exact absurd (Option.some.inj isAbove) notAbove
  · rename_i isMissing
    exact absurd isMissing (by simp)
  · rename_i same
    exact same.symm

/-- A text without a slash is the last step of every path that it is put behind. -/
theorem getLast?_steps_child
    (noSlash : '/' ∉ name.toList)
    (nonempty : name ≠ "") :
    (steps (child path name)).getLast? = some name := by
  have slash : "/".toList = ['/'] := rfl
  have relative := isAbsolute_eq_false_of_noSlash noSlash
  have someChars : name.toList.isEmpty = false := by
    simpa [List.isEmpty_eq_false_iff] using nonempty
  have shape : (child path name).toList = name.toList ∨
      ∃ chars, (child path name).toList = chars ++ '/' :: name.toList := by
    rw [child, relative, if_neg Bool.false_ne_true]
    by_cases isEmpty : path = ""
    · subst path
      exact .inl (by simp)
    · by_cases ends : endsWithSlash path = true
      · obtain ⟨chars, pathShape⟩ := endsWithSlash_iff.mp ends
        exact .inr ⟨chars, by simp [isEmpty, ends, pathShape]⟩
      · exact .inr ⟨path.toList, by simp [isEmpty, ends, slash]⟩
  have isOpen : endsWithSlash (child path name) = false := by
    rw [Bool.eq_false_iff]
    intro ends
    obtain ⟨chars, ending⟩ := endsWithSlash_iff.mp ends
    obtain ⟨front, last, isLast⟩ : ∃ front last, name.toList = front ++ [last] := by
      rcases List.eq_nil_or_concat name.toList with none | ⟨front, last, isLast⟩
      · simp [none] at someChars
      · exact ⟨front, last, by rw [isLast, List.concat_eq_append]⟩
    have isSlash : last = '/' := by
      rcases shape with shape | ⟨before, shape⟩
      · rw [shape, isLast] at ending
        exact (List.append_inj' ending rfl).2 |> List.singleton_inj.mp
      · rw [shape, isLast, ← List.cons_append, ← List.append_assoc] at ending
        exact (List.append_inj' ending rfl).2 |> List.singleton_inj.mp
    exact noSlash (by simp [isLast, isSlash])
  have lastSegment : ∃ outer, segments (child path name).toList = outer ++ [name.toList] := by
    rcases shape with shape | ⟨chars, shape⟩
    · exact ⟨[], by rw [shape, segments_of_noSlash noSlash, List.nil_append]⟩
    · exact ⟨segments chars, by rw [shape, segments_append_slash, segments_of_noSlash noSlash]⟩
  obtain ⟨outer, lastSegment⟩ := lastSegment
  rw [steps, isOpen, if_neg Bool.false_ne_true, List.append_nil, names, lastSegment,
    List.filter_append, List.map_append]
  simp [someChars]

theorem withoutSlashes_of_open
    (isOpen : endsWithSlash path = false) :
    withoutSlashes path = path := by
  rcases List.eq_nil_or_concat path.toList with none | ⟨front, last, shape⟩
  · simp [withoutSlashes, none]
  · rw [List.concat_eq_append] at shape
    have notSlash : last ≠ '/' := by
      rintro rfl
      rw [endsWithSlash_iff.mpr ⟨front, shape⟩] at isOpen
      exact Bool.noConfusion isOpen
    have kept : (path.toList.reverse.dropWhile (· = '/')).reverse = path.toList := by
      simp [shape, notSlash]
    rw [withoutSlashes, kept, shape]
    split
    · rename_i isEmpty
      simp at isEmpty
    · rw [← shape, String.ofList_toList]

/-! ### Parents -/

/-- Pieces without slashes are the segments of what they are put together to. -/
theorem segments_join
    {pieces : List (List Char)}
    (nonempty : pieces ≠ [])
    (noSlash : ∀ piece ∈ pieces, '/' ∉ piece) :
    segments (join "/" (pieces.map String.ofList)).toList = pieces := by
  induction pieces with
  | nil =>
      exact absurd rfl nonempty
  | cons first more inductionHypothesis =>
      rw [List.forall_mem_cons] at noSlash
      have slash : "/".toList = ['/'] := rfl
      cases more with
      | nil =>
          rw [List.map_singleton, join, String.intercalate_singleton, String.toList_ofList,
            segments_of_noSlash noSlash.1]
      | cons second others =>
          have joined : (join "/" ((first :: second :: others).map String.ofList)).toList =
              first ++ '/' :: (join "/" ((second :: others).map String.ofList)).toList := by
            rw [List.map_cons, join, String.intercalate_cons_of_ne_nil (by simp), ← join,
              String.toList_append, String.toList_append, String.toList_ofList, slash,
              List.append_assoc, List.singleton_append]
          rw [joined, segments_append_slash, segments_of_noSlash noSlash.1,
            inductionHypothesis (by simp) noSlash.2, List.singleton_append]

/-- Trimming takes silent pieces away from the end, and of what is left the first piece may be
the only one that says nothing. -/
theorem exists_silent_of_trimmed
    (first : List Char)
    (rest : List (List Char)) :
    ∃ kept silent, trimmed (first :: rest) = first :: kept ∧ rest = kept ++ silent ∧
      (∀ piece ∈ silent, isSilent piece = true) ∧
      ∀ last, kept.getLast? = some last → isSilent last = false := by
  refine ⟨(rest.reverse.dropWhile isSilent).reverse, (rest.reverse.takeWhile isSilent).reverse,
    rfl, ?_, ?_, ?_⟩
  · rw [← List.reverse_append, List.takeWhile_append_dropWhile, List.reverse_reverse]
  · intro piece member
    exact List.all_eq_true.mp List.all_takeWhile piece (List.mem_reverse.mp member)
  · intro last isLast
    rw [List.getLast?_reverse] at isLast
    have found := List.head?_dropWhile_not isSilent rest.reverse
    rw [isLast] at found
    simpa using found

/-- A path that does not end with a slash has a last segment. -/
theorem exists_last_segment
    {c : Char}
    (noSlash : c ≠ '/')
    (chars : List Char) :
    ∃ outer last, segments (chars ++ [c]) = outer ++ [last ++ [c]] := by
  induction chars with
  | nil =>
      refine ⟨[], [], ?_⟩
      rw [List.nil_append, segments]
      · rfl
      · exact noSlash
  | cons first more inductionHypothesis =>
      obtain ⟨outer, last, shape⟩ := inductionHypothesis
      by_cases isSlash : first = '/'
      · subst first
        exact ⟨[] :: outer, last, by rw [List.cons_append, segments, shape, List.cons_append]⟩
      · rw [List.cons_append, segments, shape]
        · cases outer with
          | nil =>
              exact ⟨[], first :: last, rfl⟩
          | cons next others =>
              exact ⟨(first :: next) :: others, last, rfl⟩
        · exact isSlash

/-- The first of several segments of a path that does not begin with a slash is not empty. -/
theorem first_segment_ne_nil
    {first : List Char}
    {rest : List (List Char)}
    (relative : isAbsolute path = false)
    (shape : segments path.toList = first :: rest)
    (more : rest ≠ []) :
    first ≠ [] := by
  have slash : "/".toList = ['/'] := rfl
  rintro rfl
  rw [isAbsolute, beginsWith, slash] at relative
  cases chars : path.toList with
  | nil =>
      rw [chars, segments] at shape
      exact more (List.cons.inj shape).2.symm
  | cons c others =>
      rw [chars] at shape relative
      by_cases isSlash : c = '/'
      · simp [isSlash, List.isPrefixOf] at relative
      · rw [segments] at shape
        · split at shape <;> simp at shape
        · exact isSlash

/-- A text without slashes behind a path is one step more. -/
theorem steps_append_name
    (noSlash : '/' ∉ name.toList)
    (notEmpty : name ≠ "")
    (path : String) :
    steps (path ++ "/" ++ name) = names path ++ [name] := by
  have someChars : name.toList.isEmpty = false := by
    simpa [List.isEmpty_eq_false_iff] using notEmpty
  have isOpen : endsWithSlash (path ++ "/" ++ name) = false := by
    rw [← Bool.not_eq_true, endsWithSlash_iff]
    rintro ⟨chars, ending⟩
    obtain ⟨front, last, isLast⟩ : ∃ front last, name.toList = front ++ [last] := by
      rcases List.eq_nil_or_concat name.toList with none | ⟨front, last, isLast⟩
      · simp [none] at someChars
      · exact ⟨front, last, by rw [isLast, List.concat_eq_append]⟩
    rw [String.toList_append, isLast, ← List.append_assoc] at ending
    have isSlash : last = '/' := List.singleton_inj.mp (List.append_inj_right' ending rfl)
    exact noSlash (by simp [isLast, isSlash])
  rw [steps, names_append_slash, isOpen, if_neg Bool.false_ne_true, List.append_nil, names,
    names, segments_of_noSlash noSlash]
  simp [someChars]

/-- The last segment of a path is its last name if it is not empty. -/
theorem names_of_last_segment
    {outer : List (List Char)}
    {last : List Char}
    (shape : segments path.toList = outer ++ [last])
    (someChars : last ≠ []) :
    names path = (outer.filter (!·.isEmpty)).map String.ofList ++ [String.ofList last] := by
  rw [names, shape, List.filter_append, List.map_append]
  simp [someChars]

/-- The parent of a path is put together of the segments before the last one. -/
theorem parent?_of_last_segment
    {outer : List (List Char)}
    {last : List Char}
    (relative : isAbsolute path = false)
    (shape : segments path.toList = outer ++ [last])
    (isHeard : isSilent last = false) :
    parent? path = some (if trimmed outer = [[]] then "/"
      else join "/" ((trimmed outer).map String.ofList)) := by
  have someParts : (parts path).isEmpty = false := by
    have someChars : last ≠ [] := by
      rintro rfl
      exact absurd isHeard (by decide)
    rw [parts, names_of_last_segment shape someChars, relative]
    cases (outer.filter (!·.isEmpty)).map String.ofList <;> simp
  rw [parent?, someParts, if_neg Bool.false_ne_true, shape, trimmed_of_last isHeard,
    List.dropLast_concat]
  split
  · rename_i isTop
    rw [if_pos isTop]
  · rename_i notTop
    rw [if_neg notTop]

/-- What comes before the last segment of a path are the steps of its parent, apart from dots. -/
theorem exists_steps_of_parent
    {outer : List (List Char)}
    {last : List Char}
    (relative : isAbsolute path = false)
    (shape : segments path.toList = outer ++ [last])
    (isHeard : isSilent last = false)
    (noSlash : '/' ∉ name.toList)
    (notEmpty : name ≠ "") :
    ∃ front dots, (outer.filter (!·.isEmpty)).map String.ofList = front ++ dots ∧
      (∀ step ∈ dots, step = ".") ∧
      steps (child ((parent? path).getD "") name) = front ++ [name] := by
  have isParent := parent?_of_last_segment relative shape isHeard
  have relativeName := isAbsolute_eq_false_of_noSlash noSlash
  cases outer with
  | nil =>
      refine ⟨[], [], rfl, by simp, ?_⟩
      rw [isParent]
      simp [trimmed, child, relativeName, steps_of_noSlash noSlash notEmpty, join]
  | cons first rest =>
      have someFirst : first ≠ [] :=
        first_segment_ne_nil relative (shape.trans (List.cons_append ..)) (by simp)
      obtain ⟨kept, silent, isTrimmed, rfl, areSilent, lastHeard⟩ :=
        exists_silent_of_trimmed first rest
      let parent := join "/" ((first :: kept).map String.ofList)
      have isJoined : (parent? path).getD "" = parent := by
        rw [isParent, isTrimmed, if_neg fun isTop => someFirst (List.cons.inj isTop).1]
        rfl
      have noSlashes : ∀ piece ∈ first :: kept, '/' ∉ piece := by
        intro piece member
        have isSegment : piece ∈ segments path.toList := by
          rw [shape, ← List.cons_append, List.append_assoc]
          exact List.mem_append_left _ member
        exact noSlash_of_mem_segments isSegment
      have parentSegments : segments parent.toList = first :: kept :=
        segments_join (by simp) noSlashes
      have someParent : parent ≠ "" := by
        intro isEmpty
        rw [isEmpty] at parentSegments
        exact someFirst (List.cons.inj parentSegments).1.symm
      have isOpen : endsWithSlash parent = false := by
        rw [← Bool.not_eq_true, endsWithSlash_iff]
        rintro ⟨chars, ending⟩
        rw [ending, segments_append_slash] at parentSegments
        have lastPiece := congrArg List.getLast? parentSegments
        rw [show segments ([] : List Char) = [[]] from rfl, List.getLast?_concat] at lastPiece
        cases isLast : kept.getLast? with
        | none =>
            obtain rfl := List.getLast?_eq_none_iff.mp isLast
            exact someFirst (Option.some.inj lastPiece).symm
        | some piece =>
            rw [List.getLast?_cons, isLast] at lastPiece
            obtain rfl : [] = piece := Option.some.inj lastPiece
            exact absurd (lastHeard [] isLast) (by decide)
      refine ⟨names parent, (silent.filter (!·.isEmpty)).map String.ofList, ?_, ?_, ?_⟩
      · rw [names, parentSegments, ← List.map_append, ← List.filter_append, List.cons_append]
      · intro step member
        obtain ⟨piece, isPiece, rfl⟩ := List.mem_map.mp member
        obtain ⟨isSilent, notEmpty⟩ := List.mem_filter.mp isPiece
        have isDot := areSilent piece isSilent
        rw [Path.isSilent, Bool.or_eq_true, decide_eq_true_iff] at isDot
        rcases isDot with isEmpty | rfl
        · simp [isEmpty] at notEmpty
        · rfl
      · rw [isJoined, child, relativeName]
        simp only [someParent, isOpen]
        exact steps_append_name noSlash notEmpty parent

/-- A sibling of a path has the steps of the path, apart from dots, up to the last one. -/
theorem exists_steps_of_sibling
    (nonempty : path ≠ "")
    (relative : isAbsolute path = false)
    (isOpen : endsWithSlash path = false)
    (noDots : endsInDots path = false)
    (noSlash : '/' ∉ name.toList)
    (notEmpty : name ≠ "") :
    ∃ front dots last, steps path = front ++ dots ++ [last] ∧ (∀ step ∈ dots, step = ".") ∧
      last ≠ "." ∧ last ≠ ".." ∧ steps (sibling path name) = front ++ [name] := by
  obtain ⟨chars, c, isPath⟩ : ∃ chars c, path.toList = chars ++ [c] := by
    rcases List.eq_nil_or_concat path.toList with none | ⟨chars, c, isPath⟩
    · exact absurd (String.toList_eq_nil_iff.mp none) nonempty
    · exact ⟨chars, c, by rw [isPath, List.concat_eq_append]⟩
  have notSlash : c ≠ '/' := by
    rintro rfl
    rw [endsWithSlash_iff.mpr ⟨chars, isPath⟩] at isOpen
    exact Bool.noConfusion isOpen
  obtain ⟨outer, piece, shape⟩ := exists_last_segment notSlash chars
  rw [← isPath] at shape
  have areNames := names_of_last_segment shape (by simp)
  have areSteps : steps path = names path := by
    rw [steps, isOpen, if_neg Bool.false_ne_true, List.append_nil]
  have notDots : String.ofList (piece ++ [c]) ≠ "." ∧ String.ofList (piece ++ [c]) ≠ ".." := by
    rw [endsInDots, areNames, List.getLast?_concat] at noDots
    constructor
    · intro isDot
      simp [isDot] at noDots
    · intro isDots
      simp [isDots] at noDots
  have isHeard : isSilent (piece ++ [c]) = false := by
    rw [isSilent, Bool.or_eq_false_iff, decide_eq_false_iff_not]
    refine ⟨by simp, fun isDot => notDots.1 ?_⟩
    rw [isDot]
  have isLast : fileName? path = some (String.ofList (piece ++ [c])) := by
    refine fileName?_of_steps ?_ notDots.1 notDots.2
    rw [areSteps, areNames, List.getLast?_concat]
  obtain ⟨front, dots, isFront, areDots, areSiblingSteps⟩ :=
    exists_steps_of_parent relative shape isHeard noSlash notEmpty
  refine ⟨front, dots, _, ?_, areDots, notDots.1, notDots.2, ?_⟩
  · rw [areSteps, areNames, isFront]
  · rw [sibling, isLast]
    exact areSiblingSteps

end Path

/-! ## Destinations -/

/-- A path that is not followed leads nowhere in any tree. -/
theorem isFollowed_or
    (path : String) :
    IsFollowed path ∨
      ∃ error, ∀ (disk : Disk) (followsLast : Bool),
        disk.destination followsLast path = .error error := by
  by_cases nul : path.toList.contains '\x00' = true
  · exact .inr ⟨.nulInPath, fun _ _ => by rw [destination, if_pos nul]⟩
  · by_cases isEmpty : path = ""
    · exact .inr ⟨.noSuchFile, fun _ _ => by rw [destination, if_neg nul, if_pos isEmpty]⟩
    · by_cases long : maxPathLength < path.utf8ByteSize
      · exact .inr ⟨.nameTooLong, fun _ _ => by
          rw [destination, if_neg nul, if_neg isEmpty, if_pos long]⟩
      · by_cases absolute : Path.isAbsolute path = true
        · exact .inr ⟨.noSuchFile, fun _ _ => by
            rw [destination, if_neg nul, if_neg isEmpty, if_neg long, if_pos absolute]⟩
        · exact .inl ⟨by simpa using nul, isEmpty, Nat.not_lt.mp long, by simpa using absolute⟩

/-- Names that do not lead to a directory lead to something with the last name. -/
theorem getLast?_of_follow
    {disk : Disk}
    {links : Nat}
    {base : Place}
    {names : List String}
    {destination : Destination}
    (leads : disk.follow false links base names = .ok destination)
    (notDirectory : ∀ place, destination ≠ .found place .directory) :
    ∃ name, IsStep name ∧ names.getLast? = some name ∧
      destination.place.getLast? = some name := by
  fun_induction follow disk false links base names with
  | case1 links base =>
      exact absurd (Except.ok.inj leads).symm (notDirectory base)
  | case2 links base rest inductionHypothesis =>
      obtain ⟨name, isStep, last, same⟩ := inductionHypothesis leads
      exact ⟨name, isStep, by simp [List.getLast?_cons, last], same⟩
  | case3 links base rest inductionHypothesis =>
      obtain ⟨name, isStep, last, same⟩ := inductionHypothesis leads
      exact ⟨name, isStep, by simp [List.getLast?_cons, last], same⟩
  | case5 links base name rest notHere notAbove short place isVacant isLast =>
      obtain rfl := Except.ok.inj leads
      obtain rfl := List.isEmpty_iff.mp isLast
      exact ⟨name, ⟨notHere, notAbove, Nat.not_lt.mp short⟩, rfl, List.getLast?_concat⟩
  | case7 links base name rest notHere notAbove short place isDirectory inductionHypothesis =>
      obtain ⟨name, isStep, last, same⟩ := inductionHypothesis leads
      exact ⟨name, isStep, by simp [List.getLast?_cons, last], same⟩
  | case8 links base name rest notHere notAbove short place content modified isFile isLast =>
      obtain rfl := Except.ok.inj leads
      obtain rfl := List.isEmpty_iff.mp isLast
      exact ⟨name, ⟨notHere, notAbove, Nat.not_lt.mp short⟩, rfl, List.getLast?_concat⟩
  | case10 links base name rest notHere notAbove short place target isLink stops =>
      obtain rfl := Except.ok.inj leads
      obtain rfl : rest = [] := by simpa using stops
      exact ⟨name, ⟨notHere, notAbove, Nat.not_lt.mp short⟩, rfl, List.getLast?_concat⟩
  | case13 base name rest notHere notAbove short place target isLink goesOn links relative
      inductionHypothesis =>
      -- The link is not the last step, so the names behind its target are those behind the link.
      obtain ⟨next, more, rfl⟩ : ∃ next more, rest = next :: more :=
        List.exists_cons_of_ne_nil (by simpa using goesOn)
      obtain ⟨last, isStep, isLast, same⟩ := inductionHypothesis leads
      refine ⟨last, isStep, ?_, same⟩
      rw [← isLast]
      simp [List.getLast?_append, List.getLast?_cons]
  | _ => simp_all

/-- There is nothing at a place that names lead to as vacant. -/
theorem absent_of_follow
    {disk : Disk}
    {followsLast : Bool}
    {links : Nat}
    {base place : Place}
    {names : List String}
    (leads : disk.follow followsLast links base names = .ok (.vacant place)) :
    disk.node? place = none := by
  fun_induction follow disk followsLast links base names with
  | case5 links base name rest notHere notAbove short other isVacant isLast =>
      obtain rfl := Destination.vacant.inj (Except.ok.inj leads)
      exact isVacant
  | _ => simp_all

/-- It only matters to a link whether the last name is followed. -/
theorem follow_true_cases
    (disk : Disk)
    (links : Nat)
    (base : Place)
    (names : List String) :
    disk.follow true links base names = disk.follow false links base names ∨
      ∃ place target, disk.follow false links base names = .ok (.found place (.link target)) := by
  fun_induction follow disk false links base names with
  | case1 links base =>
      exact .inl (by rw [follow])
  | case2 links base rest inductionHypothesis =>
      rw [follow_here]
      exact inductionHypothesis
  | case3 links base rest inductionHypothesis =>
      rw [follow_above]
      exact inductionHypothesis
  | case7 links base name rest notHere notAbove short place isDirectory inductionHypothesis =>
      rw [follow_directory notHere notAbove (Nat.not_lt.mp short) isDirectory]
      exact inductionHypothesis
  | case10 links base name rest notHere notAbove short place target isLink stops =>
      exact .inr ⟨place, target, rfl⟩
  | case13 base name rest notHere notAbove short place target isLink goesOn links relative
      inductionHypothesis =>
      have more : rest ≠ [] := by simpa using goesOn
      rw [Bool.not_eq_true] at relative
      rw [follow_link notHere notAbove (Nat.not_lt.mp short) isLink relative (.inl more)]
      exact inductionHypothesis
  | _ =>
      refine .inl ?_
      simp_all +zetaDelta [follow]

end SourceFacts.Disk
