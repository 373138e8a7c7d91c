import Mathlib.Order.Bounds.Basic
import SourceFacts.Extraction.Wording

namespace SourceFacts.Text

/-!
# Bounded cuts

What is kept of a long text is the longest of its prefixes that fits into a number of bytes. It
ends where the scan backwards from the bound stops, which is at a boundary at most three bytes
before the bound, because no character takes more than four.
-/

variable {text front back : String} {size bound : Nat}

/-! ## Boundaries -/

/-- A text has whole characters in as many bytes as one of its prefixes takes. -/
theorem isBoundary_iff :
    isBoundary text size = true ↔
      ∃ front back, text = front ++ back ∧ front.utf8ByteSize = size := by
  rw [isBoundary, String.Pos.Raw.isValid_eq_true_iff, String.Pos.Raw.isValid_iff_exists_append]
  constructor
  · rintro ⟨front, back, parts, ends⟩
    exact ⟨front, back, parts, congrArg String.Pos.Raw.byteIdx ends.symm⟩
  · rintro ⟨front, back, parts, rfl⟩
    exact ⟨front, back, parts, rfl⟩

/-- No character takes more than four bytes, so that after a boundary the next one is near. -/
theorem exists_next_boundary
    (isStart : isBoundary text size = true)
    (isInside : size < text.utf8ByteSize) :
    ∃ next, isBoundary text next = true ∧ size < next ∧ next ≤ size + 4 := by
  obtain ⟨front, back, rfl, rfl⟩ := isBoundary_iff.mp isStart
  cases chars : back.toList with
  | nil =>
      have noBack : back = "" := by simpa using chars
      rw [noBack] at isInside
      simp at isInside
  | cons c rest =>
      have parts : back = String.singleton c ++ String.ofList rest := by
        rw [← String.toList_inj]
        simp [chars]
      refine ⟨(front ++ String.singleton c).utf8ByteSize, ?_, ?_, ?_⟩
      · exact isBoundary_iff.mpr ⟨_, String.ofList rest, by rw [parts, String.append_assoc], rfl⟩
      · simpa using c.utf8Size_pos
      · simpa using c.utf8Size_le_four

/-! ## The scan backwards -/

/-- Where a scan backwards from a bound stops. -/
structure StopsAt (text : String) (bound stop : Nat) : Prop where
  last : IsGreatest {size | isBoundary text size = true ∧ size ≤ bound} stop
  near : bound ≤ text.utf8ByteSize → bound ≤ stop + 3

/-- The scan stops at the last boundary up to the bound. -/
theorem isGreatest_boundaryUpTo (text : String) (bound : Nat) :
    IsGreatest {size | isBoundary text size = true ∧ size ≤ bound} (boundaryUpTo text bound) := by
  refine ⟨⟨isBoundary_boundaryUpTo text bound, ?_⟩, ?_⟩
  · induction bound with
    | zero => exact Nat.le_refl 0
    | succ bound inductionHypothesis =>
        rw [boundaryUpTo]
        split
        · exact Nat.le_refl _
        · exact Nat.le_succ_of_le inductionHypothesis
  · rintro size ⟨isEnd, inBound⟩
    induction bound with
    | zero => exact inBound
    | succ bound inductionHypothesis =>
        rw [boundaryUpTo]
        split
        · exact inBound
        · rename_i notHere
          refine inductionHypothesis (Nat.le_of_lt_succ (Nat.lt_of_le_of_ne inBound ?_))
          rintro rfl
          exact notHere isEnd

/-- The scan steps back three bytes at most from a bound in the text. -/
theorem stopsAt_boundaryUpTo (text : String) (bound : Nat) :
    StopsAt text bound (boundaryUpTo text bound) := by
  refine ⟨isGreatest_boundaryUpTo text bound, fun inText => ?_⟩
  by_contra isFar
  obtain ⟨⟨isStop, _⟩, isLast⟩ := isGreatest_boundaryUpTo text bound
  obtain ⟨next, isNext, isLater, isNear⟩ := exists_next_boundary isStop (by omega)
  have notLater : next ≤ boundaryUpTo text bound := isLast ⟨isNext, by omega⟩
  omega

/-- A scan backwards that does not ask whether it has arrived at the beginning, and fails if
it has to step back from there. -/
def scanBack? (text : String) : Nat → Option Nat
  | 0 => if isBoundary text 0 then some 0 else none
  | size + 1 => if isBoundary text (size + 1) then some (size + 1) else scanBack? text size

/-- Such a scan never has to step back from the beginning. -/
theorem scanBack?_eq (text : String) (bound : Nat) :
    scanBack? text bound = some (boundaryUpTo text bound) := by
  induction bound with
  | zero => exact if_pos (isBoundary_boundaryUpTo text 0)
  | succ bound inductionHypothesis =>
      rw [scanBack?, boundaryUpTo]
      split
      · rfl
      · exact inductionHypothesis

/-! ## What is kept -/

/-- The longest prefix of a text that fits into a number of bytes: every other prefix that
fits is a prefix of it. -/
structure IsLongestPrefix (bound : Nat) (text kept : String) : Prop where
  isPrefix : ∃ rest, text = kept ++ rest
  fits : kept.utf8ByteSize ≤ bound
  longest : ∀ other rest, text = other ++ rest → other.utf8ByteSize ≤ bound →
    ∃ more, kept = other ++ more

/-- A prefix that ends at the last boundary is the longest one that fits. -/
theorem isLongestPrefix_of_isGreatest
    (parts : text = front ++ back)
    (isLast : IsGreatest {size | isBoundary text size = true ∧ size ≤ bound} front.utf8ByteSize) :
    IsLongestPrefix bound text front := by
  refine ⟨⟨back, parts⟩, isLast.1.2, fun other rest otherParts otherFits => ?_⟩
  have notLonger : other.utf8ByteSize ≤ front.utf8ByteSize :=
    isLast.2 ⟨isBoundary_iff.mpr ⟨other, rest, otherParts, rfl⟩, otherFits⟩
  have frontPrefix : front.toList <+: text.toList := ⟨back.toList, by simp [parts]⟩
  have otherPrefix : other.toList <+: text.toList := ⟨rest.toList, by simp [otherParts]⟩
  rcases List.prefix_or_prefix_of_prefix otherPrefix frontPrefix with ⟨more, added⟩ | ⟨more, added⟩
  · exact ⟨String.ofList more, by rw [← String.toList_inj]; simp [added]⟩
  · -- The last boundary is no earlier, so that nothing is added to the prefix.
    have isOther : other = front ++ String.ofList more := by
      rw [← String.toList_inj]
      simp [added]
    have nothingMore : String.ofList more = "" := by
      rw [isOther, String.utf8ByteSize_append] at notLonger
      rw [← String.utf8ByteSize_eq_zero_iff]
      omega
    refine ⟨"", ?_⟩
    rw [isOther, nothingMore]
    simp

/-- Two longest prefixes of a text are the same. -/
theorem IsLongestPrefix.unique
    {kept other : String}
    (isLongest : IsLongestPrefix bound text kept)
    (otherLongest : IsLongestPrefix bound text other) :
    kept = other := by
  obtain ⟨rest, parts⟩ := isLongest.isPrefix
  obtain ⟨otherRest, otherParts⟩ := otherLongest.isPrefix
  obtain ⟨more, added⟩ := isLongest.longest other otherRest otherParts otherLongest.fits
  obtain ⟨otherMore, otherAdded⟩ := otherLongest.longest kept rest parts isLongest.fits
  have sizes := congrArg String.utf8ByteSize added
  have otherSizes := congrArg String.utf8ByteSize otherAdded
  rw [String.utf8ByteSize_append] at sizes otherSizes
  have nothingMore : more = "" := by
    rw [← String.utf8ByteSize_eq_zero_iff]
    omega
  rw [added, nothingMore]
  simp

/-- The first bytes of a text are a prefix of that size. -/
theorem takeTo_spec (isEnd : isBoundary text size = true) :
    (takeTo text size isEnd).utf8ByteSize = size ∧
      ∃ rest, text = takeTo text size isEnd ++ rest := by
  have splits :=
    (text.pos ⟨size⟩ (String.Pos.Raw.isValid_eq_true_iff.mp isEnd)).splits
  exact ⟨congrArg String.Pos.Raw.byteIdx splits.offset_eq_rawEndPos.symm, _, splits.eq_append⟩

/-- A cut keeps the longest prefix that fits. -/
theorem isLongestPrefix_cut (bound : Nat) (text : String) :
    IsLongestPrefix bound text (cut bound text) := by
  rw [cut]
  split
  · rename_i fits
    exact ⟨⟨"", by simp⟩, fits, fun other rest parts _ => ⟨rest, parts⟩⟩
  · obtain ⟨isSize, rest, parts⟩ := takeTo_spec (isBoundary_boundaryUpTo text bound)
    refine isLongestPrefix_of_isGreatest parts ?_
    rw [isSize]
    exact isGreatest_boundaryUpTo text bound

-- The bound is inside of the second of two characters of three bytes.
example : cut 4 "a€€" = "a€" := by decide

/-- There is nothing else that a cut could keep. -/
theorem cut_eq_iff {kept : String} : cut bound text = kept ↔ IsLongestPrefix bound text kept := by
  refine ⟨?_, (isLongestPrefix_cut bound text).unique⟩
  rintro rfl
  exact isLongestPrefix_cut bound text

/-- A cut keeps all of a text if all of it fits. -/
theorem cut_eq_self_iff : cut bound text = text ↔ text.utf8ByteSize ≤ bound := by
  refine ⟨fun isWhole => ?_, fun fits => if_pos fits⟩
  rw [← isWhole]
  exact (isLongestPrefix_cut bound text).fits

end SourceFacts.Text

namespace SourceFacts.Extraction

open Syntax Text

/-! ## Values -/

/-- What is kept of a value: all of a short one, and the longest prefix of a long one that
fits, with three dots after it. -/
inductive Shortens (text : String) : String → Prop where
  | whole (fits : text.utf8ByteSize ≤ Source.maxValueBytes) : Shortens text text
  | cut {front : String}
      (isLong : Source.maxValueBytes < text.utf8ByteSize)
      (isLongest : IsLongestPrefix Source.maxValueBytes text front) : Shortens text (front ++ "...")

/-- The text of a value is what is kept of what the source says. -/
theorem shortens_valueTextOf (source : Source) (node : Node) :
    Shortens (source.trimmedTextOf node) (source.valueTextOf node) := by
  rw [Source.valueTextOf]
  split
  · rename_i fits
    exact .whole fits
  · rename_i isLong
    exact .cut (Nat.lt_of_not_le isLong) (isLongestPrefix_cut _ _)

/-- For every text and every bound, a cut is the longest prefix that fits, and all of the text
exactly if it fits; the text of a value is its text without blanks around it, or the longest
prefix of it that fits with three dots; and both scans backwards stop at the last boundary up to
the bound, at most three bytes before a bound in the text, and never step back from the
beginning. -/
theorem cuts_areLongest :
    (∀ bound text, (∀ kept, cut bound text = kept ↔ IsLongestPrefix bound text kept) ∧
      (cut bound text = text ↔ text.utf8ByteSize ≤ bound)) ∧
    (∀ (source : Source) node,
      Shortens (source.trimmedTextOf node) (source.valueTextOf node)) ∧
    ∀ text bound, StopsAt text bound (boundaryUpTo text bound) ∧
      scanBack? text bound = some (boundaryUpTo text bound) :=
  ⟨fun _ _ => ⟨fun _ => cut_eq_iff, cut_eq_self_iff⟩,
    shortens_valueTextOf,
    fun text bound => ⟨stopsAt_boundaryUpTo text bound, scanBack?_eq text bound⟩⟩

end SourceFacts.Extraction
