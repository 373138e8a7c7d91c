import SourceFacts.Cache.Key
import SourceFacts.Proofs.Extraction.Definitions
import SourceFacts.Proofs.Text.Encodings

namespace SourceFacts.Cache

open Text Facts Extraction

/-!
# Reading signatures back

A signature has no lengths before its names. It can still be read in one way only, as long as no
name holds one of the marks that stand between names: the counts at its beginning tell no names
from one empty name, and methods, which are not counted, have names that are not empty.
-/

/-! ## Joined texts -/

/-- What is joined begins with the first text; before each of the others stands the separator. -/
theorem toList_join_cons
    (separator text : String)
    (rest : List String) :
    (join separator (text :: rest)).toList =
      text.toList ++ rest.flatMap fun next => separator.toList ++ next.toList := by
  induction rest generalizing text with
  | nil =>
      simp [join]
  | cons next more inductionHypothesis =>
      have joined : join separator (text :: next :: more) =
          text ++ separator ++ join separator (next :: more) :=
        String.intercalate_cons_cons
      rw [joined, String.toList_append, String.toList_append, inductionHypothesis,
        List.flatMap_cons, List.append_assoc, List.append_assoc]

/-- A character that neither the texts nor the separator hold is not in what is joined. -/
theorem not_mem_join
    {c : Char}
    {separator : String}
    {texts : List String}
    (noSeparator : c ∉ separator.toList)
    (free : ∀ text ∈ texts, c ∉ text.toList) :
    c ∉ (join separator texts).toList := by
  cases texts with
  | nil =>
      exact List.not_mem_nil
  | cons text rest =>
      rw [List.forall_mem_cons] at free
      rw [toList_join_cons, List.mem_append, List.mem_flatMap]
      rintro (isText | ⟨next, isNext, isLater⟩)
      · exact free.1 isText
      · exact (List.mem_append.mp isLater).elim noSeparator (free.2 next isNext)

section Joined

variable (mark : Char) {first second : List String}
  (firstFree : ∀ text ∈ first, mark ∉ text.toList)
  (secondFree : ∀ text ∈ second, mark ∉ text.toList)

include firstFree secondFree

/-- Texts that a mark joins are told from others, except that nothing looks like one empty text. -/
theorem join_inj_iff :
    join (String.singleton mark) first = join (String.singleton mark) second ↔
      first = second ∨ first = [] ∧ second = [""] ∨ first = [""] ∧ second = [] := by
  constructor
  · intro same
    have parts : (if first = [] then [""] else first) = if second = [] then [""] else second := by
      have sameText : (String.singleton mark).intercalate first =
          (String.singleton mark).intercalate second := same
      rw [← String.toList_split_intercalate firstFree,
        ← String.toList_split_intercalate secondFree, sameText]
    by_cases noFirst : first = []
    · by_cases noSecond : second = []
      · exact Or.inl (noFirst.trans noSecond.symm)
      · rw [if_pos noFirst, if_neg noSecond] at parts
        exact Or.inr (Or.inl ⟨noFirst, parts.symm⟩)
    · by_cases noSecond : second = []
      · rw [if_neg noFirst, if_pos noSecond] at parts
        exact Or.inr (Or.inr ⟨parts, noSecond⟩)
      · rw [if_neg noFirst, if_neg noSecond] at parts
        exact Or.inl parts
  · rintro (rfl | ⟨rfl, rfl⟩ | ⟨rfl, rfl⟩)
    · rfl
    · rfl
    · rfl

/-- If the texts are counted, nothing is told from one empty text. -/
theorem join_inj_of_length (sameLength : first.length = second.length) :
    join (String.singleton mark) first = join (String.singleton mark) second ↔
      first = second := by
  rw [join_inj_iff mark firstFree secondFree, or_iff_left_iff_imp]
  rintro (⟨rfl, rfl⟩ | ⟨rfl, rfl⟩)
  · cases sameLength
  · cases sameLength

/-- If no text is empty, nothing is told from one empty text. -/
theorem join_inj_of_nonempty
    (firstNonempty : ∀ text ∈ first, text ≠ "")
    (secondNonempty : ∀ text ∈ second, text ≠ "") :
    join (String.singleton mark) first = join (String.singleton mark) second ↔
      first = second := by
  rw [join_inj_iff mark firstFree secondFree, or_iff_left_iff_imp]
  rintro (⟨rfl, rfl⟩ | ⟨rfl, rfl⟩)
  · exact (secondNonempty "" (List.mem_singleton_self "") rfl).elim
  · exact (firstNonempty "" (List.mem_singleton_self "") rfl).elim

end Joined

/-- What stands before the first mark is told from what stands after it. -/
theorem append_mark_inj
    {mark : Char}
    {first second afterFirst afterSecond : List Char}
    (firstFree : mark ∉ first)
    (secondFree : mark ∉ second) :
    first ++ mark :: afterFirst = second ++ mark :: afterSecond ↔
      first = second ∧ afterFirst = afterSecond := by
  induction first generalizing second with
  | nil =>
      cases second with
      | nil =>
          simp
      | cons c rest =>
          have differs : mark ≠ c := List.ne_of_not_mem_cons secondFree
          simp [differs]
  | cons c rest inductionHypothesis =>
      cases second with
      | nil =>
          have differs : c ≠ mark := (List.ne_of_not_mem_cons firstFree).symm
          simp [differs]
      | cons d more =>
          rw [List.cons_append, List.cons_append, List.cons.injEq, List.cons.injEq,
            inductionHypothesis (List.not_mem_of_not_mem_cons firstFree)
              (List.not_mem_of_not_mem_cons secondFree), and_assoc]

/-! ## Plain names -/

/-- A name without the marks that stand between names. -/
def IsPlain (name : String) : Prop := ∀ mark ∈ [',', ';', '(', ')'], mark ∉ name.toList

instance (name : String) : Decidable (IsPlain name) :=
  List.decidableBAll (fun mark => mark ∉ name.toList) [',', ';', '(', ')']

section Names

variable {firsts seconds : List α} {name : α → String}

theorem not_mem_of_isPlain
    (plain : ∀ item ∈ firsts, IsPlain (name item))
    {mark : Char}
    (isMark : mark ∈ [',', ';', '(', ')']) :
    ∀ text ∈ firsts.map name, mark ∉ text.toList :=
  List.forall_mem_map.mpr fun item member => plain item member mark isMark

/-- As many plain names are told from others. -/
theorem join_names_inj
    (firstPlain : ∀ item ∈ firsts, IsPlain (name item))
    (secondPlain : ∀ item ∈ seconds, IsPlain (name item))
    (sameLength : firsts.length = seconds.length) :
    join "," (firsts.map name) = join "," (seconds.map name) ↔
      firsts.map name = seconds.map name := by
  refine join_inj_of_length ',' (not_mem_of_isPlain firstPlain (by decide))
    (not_mem_of_isPlain secondPlain (by decide)) ?_
  rw [List.length_map, List.length_map, sameLength]

end Names

/-! ## Classes -/

/-- What a signature tells about a class: its name and those of its methods. -/
def outlineOf (cls : Facts.Class) : String × List String := (cls.name, cls.methods.map (·.name))

/-- An outline as it is written in a signature. -/
def outlineText (outline : String × List String) : String :=
  outline.1 ++ "(" ++ join "," outline.2 ++ ")"

theorem map_classSignature (classes : List Facts.Class) :
    classes.map classSignature = (classes.map outlineOf).map outlineText := by
  rw [List.map_map]
  rfl

/-- An outline with plain names, where those of methods are not empty. -/
structure IsPlainOutline (outline : String × List String) : Prop where
  name : IsPlain outline.1
  methods : ∀ method ∈ outline.2, IsPlain method
  named : ∀ method ∈ outline.2, method ≠ ""

instance (outline : String × List String) : Decidable (IsPlainOutline outline) :=
  decidable_of_iff (IsPlain outline.1 ∧ (∀ method ∈ outline.2, IsPlain method) ∧
      ∀ method ∈ outline.2, method ≠ "")
    ⟨fun ⟨name, methods, named⟩ => ⟨name, methods, named⟩,
      fun ⟨name, methods, named⟩ => ⟨name, methods, named⟩⟩

section Outlines

variable {first second : String × List String} {firsts seconds : List (String × List String)}

/-- The methods of an outline are told from those of another one. -/
theorem IsPlainOutline.join_inj
    (firstPlain : IsPlainOutline first)
    (secondPlain : IsPlainOutline second) :
    join "," first.2 = join "," second.2 ↔ first.2 = second.2 :=
  join_inj_of_nonempty ','
    (fun method member => firstPlain.methods method member ',' (by decide))
    (fun method member => secondPlain.methods method member ',' (by decide))
    firstPlain.named secondPlain.named

/-- A mark other than the comma is not among the methods of an outline. -/
theorem IsPlainOutline.not_mem_join
    (plain : IsPlainOutline first)
    {mark : Char}
    (isMark : mark ∈ [';', '(', ')']) :
    mark ∉ (join "," first.2).toList := by
  refine Cache.not_mem_join ?_ fun method member => ?_
  · have noComma : mark ≠ ',' := by
      rintro rfl
      exact absurd isMark (by decide)
    simpa using noComma
  · exact plain.methods method member mark (List.mem_cons_of_mem _ isMark)

/-- An outline ends where its second parenthesis stands, whatever comes after it. -/
theorem outlineText_append_inj
    (firstPlain : IsPlainOutline first)
    (secondPlain : IsPlainOutline second)
    {afterFirst afterSecond : List Char} :
    (outlineText first).toList ++ afterFirst = (outlineText second).toList ++ afterSecond ↔
      first = second ∧ afterFirst = afterSecond := by
  have written : ∀ (outline : String × List String) (after : List Char),
      (outlineText outline).toList ++ after =
        outline.1.toList ++ '(' :: ((join "," outline.2).toList ++ ')' :: after) := by
    intro outline after
    simp [outlineText]
  rw [written, written,
    append_mark_inj (firstPlain.name '(' (by decide)) (secondPlain.name '(' (by decide)),
    append_mark_inj (firstPlain.not_mem_join (by decide)) (secondPlain.not_mem_join (by decide)),
    String.toList_inj, String.toList_inj, firstPlain.join_inj secondPlain, Prod.ext_iff, and_assoc]

/-- Outlines after commas are told from others. -/
theorem flatMap_outlineText_inj
    (firstPlain : ∀ outline ∈ firsts, IsPlainOutline outline)
    (secondPlain : ∀ outline ∈ seconds, IsPlainOutline outline) :
    firsts.flatMap (fun outline => ',' :: (outlineText outline).toList) =
        seconds.flatMap (fun outline => ',' :: (outlineText outline).toList) ↔
      firsts = seconds := by
  induction firsts generalizing seconds with
  | nil =>
      cases seconds with
      | nil =>
          simp
      | cons second rest =>
          simp
  | cons first rest inductionHypothesis =>
      cases seconds with
      | nil =>
          simp
      | cons second more =>
          rw [List.forall_mem_cons] at firstPlain secondPlain
          rw [List.flatMap_cons, List.flatMap_cons, List.cons_append, List.cons_append,
            List.cons.injEq, outlineText_append_inj firstPlain.1 secondPlain.1,
            inductionHypothesis firstPlain.2 secondPlain.2, List.cons.injEq]
          simp

/-- Outlines that are joined are told from others, also if there are none. -/
theorem join_outlineText_inj
    (firstPlain : ∀ outline ∈ firsts, IsPlainOutline outline)
    (secondPlain : ∀ outline ∈ seconds, IsPlainOutline outline) :
    join "," (firsts.map outlineText) = join "," (seconds.map outlineText) ↔ firsts = seconds := by
  have nonempty : ∀ (outline : String × List String) (rest : List (String × List String)),
      join "," [] ≠ join "," ((outline :: rest).map outlineText) := by
    intro outline rest same
    rw [← String.toList_inj, List.map_cons, toList_join_cons] at same
    simp [join, outlineText] at same
  refine ⟨fun same => ?_, fun same => by rw [same]⟩
  cases firsts with
  | nil =>
      cases seconds with
      | nil =>
          rfl
      | cons second rest =>
          exact (nonempty second rest same).elim
  | cons first rest =>
      cases seconds with
      | nil =>
          exact (nonempty first rest same.symm).elim
      | cons second more =>
          rw [List.forall_mem_cons] at firstPlain secondPlain
          rw [← String.toList_inj, List.map_cons, List.map_cons, toList_join_cons,
            toList_join_cons, List.flatMap_map, List.flatMap_map,
            outlineText_append_inj firstPlain.1 secondPlain.1] at same
          rw [same.1, (flatMap_outlineText_inj firstPlain.2 secondPlain.2).mp same.2]

end Outlines

/-! ## Signatures -/

/-- A structure in which names are plain and those of methods are not empty. -/
structure HasPlainNames (model : Model) : Prop where
  functions : ∀ function ∈ model.functions, IsPlain function.name
  classes : ∀ cls ∈ model.classes, IsPlainOutline (outlineOf cls)
  imports : ∀ found ∈ model.imports, IsPlain found.moduleName

instance (model : Model) : Decidable (HasPlainNames model) :=
  decidable_of_iff ((∀ function ∈ model.functions, IsPlain function.name) ∧
      (∀ cls ∈ model.classes, IsPlainOutline (outlineOf cls)) ∧
      ∀ found ∈ model.imports, IsPlain found.moduleName)
    ⟨fun ⟨functions, classes, imports⟩ => ⟨functions, classes, imports⟩,
      fun ⟨functions, classes, imports⟩ => ⟨functions, classes, imports⟩⟩

/-- Two structures of which a signature tells the same. -/
structure SameOutline (first second : Model) : Prop where
  functions : first.functions.map (·.name) = second.functions.map (·.name)
  classes : first.classes.map outlineOf = second.classes.map outlineOf
  imports : first.imports.map (·.moduleName) = second.imports.map (·.moduleName)
  globals : first.globals.length = second.globals.length

instance (first second : Model) : Decidable (SameOutline first second) :=
  decidable_of_iff (first.functions.map (·.name) = second.functions.map (·.name) ∧
      first.classes.map outlineOf = second.classes.map outlineOf ∧
      first.imports.map (·.moduleName) = second.imports.map (·.moduleName) ∧
      first.globals.length = second.globals.length)
    ⟨fun ⟨functions, classes, imports, globals⟩ => ⟨functions, classes, imports, globals⟩,
      fun ⟨functions, classes, imports, globals⟩ => ⟨functions, classes, imports, globals⟩⟩

/-- What stands between the semicolons of a signature. -/
def signatureParts (model : Model) : List String :=
  ["v" ++ toString extractorVersion, "f" ++ toString model.functions.length,
    "c" ++ toString model.classes.length, "i" ++ toString model.imports.length,
    "g" ++ toString model.globals.length,
    "fn:" ++ join "," (model.functions.map (·.name)),
    "cls:" ++ join "," (model.classes.map classSignature),
    "imp:" ++ join "," (model.imports.map (·.moduleName))]

theorem signature_eq (model : Model) : signature model = join ";" (signatureParts model) := by
  have labels : ";f" = ";" ++ "f" ∧ ";c" = ";" ++ "c" ∧ ";i" = ";" ++ "i" ∧ ";g" = ";" ++ "g" ∧
      ";fn:" = ";" ++ "fn:" ∧ ";cls:" = ";" ++ "cls:" ∧ ";imp:" = ";" ++ "imp:" := by
    decide
  unfold signature signatureParts join
  simp only [labels, String.intercalate_cons_cons, String.intercalate_singleton,
    String.append_assoc]

/-- Numbers are written without semicolons. -/
theorem semicolon_not_mem_toDigits (value : Nat) : ';' ∉ Nat.toDigits 10 value := fun isDigit =>
  absurd (List.all_eq_true.mp (all_isDigit_toDigits value) ';' isDigit) (by decide)

/-- A class is written without semicolons. -/
theorem semicolon_not_mem_classSignature
    {cls : Facts.Class}
    (plain : IsPlainOutline (outlineOf cls)) :
    ';' ∉ (classSignature cls).toList := by
  have noName : ';' ∉ cls.name.toList := plain.name ';' (by decide)
  have noMethod : ';' ∉ (join "," (cls.methods.map (·.name))).toList :=
    plain.not_mem_join (by decide)
  simp [classSignature, noName, noMethod]

/-- Semicolons stand only between the parts of a signature. -/
theorem semicolon_not_mem_signatureParts
    {model : Model}
    (plain : HasPlainNames model) :
    ∀ part ∈ signatureParts model, ';' ∉ part.toList := by
  have functions : ';' ∉ (join "," (model.functions.map (·.name))).toList :=
    not_mem_join (by decide) (not_mem_of_isPlain plain.functions (by decide))
  have imports : ';' ∉ (join "," (model.imports.map (·.moduleName))).toList :=
    not_mem_join (by decide) (not_mem_of_isPlain plain.imports (by decide))
  have classes : ';' ∉ (join "," (model.classes.map classSignature)).toList :=
    not_mem_join (by decide) (List.forall_mem_map.mpr fun cls member =>
      semicolon_not_mem_classSignature (plain.classes cls member))
  simp [signatureParts, functions, imports, classes, semicolon_not_mem_toDigits]

/-- Two signatures are the same if all of their parts are. -/
theorem signature_inj
    {first second : Model}
    (firstPlain : HasPlainNames first)
    (secondPlain : HasPlainNames second) :
    signature first = signature second ↔ signatureParts first = signatureParts second := by
  rw [signature_eq, signature_eq]
  refine (join_inj_iff ';' (semicolon_not_mem_signatureParts firstPlain)
    (semicolon_not_mem_signatureParts secondPlain)).trans ?_
  simp [signatureParts]

/-- Different numbers are written with different digits. -/
theorem toString_inj {first second : Nat} : toString first = toString second ↔ first = second := by
  refine ⟨fun same => ?_, congrArg toString⟩
  have digits : Nat.toDigits 10 first = Nat.toDigits 10 second := by
    rw [← Nat.toList_repr, ← Nat.toList_repr, ← Nat.toString_eq_repr, ← Nat.toString_eq_repr, same]
  rw [← foldl_toDigits first, ← foldl_toDigits second, digits]

/-- The parts of two signatures are the same if the counts and what is joined are the same. -/
theorem signatureParts_inj {first second : Model} :
    signatureParts first = signatureParts second ↔
      (first.functions.length = second.functions.length ∧
        first.classes.length = second.classes.length ∧
        first.imports.length = second.imports.length ∧
        first.globals.length = second.globals.length) ∧
      join "," (first.functions.map (·.name)) = join "," (second.functions.map (·.name)) ∧
      join "," (first.classes.map classSignature) =
        join "," (second.classes.map classSignature) ∧
      join "," (first.imports.map (·.moduleName)) =
        join "," (second.imports.map (·.moduleName)) := by
  simp only [signatureParts, List.cons.injEq, String.append_right_inj, toString_inj, true_and,
    and_true, and_assoc]

/-- Two structures with plain names have the same signature exactly if they have the same functions,
classes with the same methods and imports, by name and in this order, and as many variables. In a
file only functions with names are found, so that no method there spoils this. -/
theorem signature_eq_iff_sameOutline :
    (∀ first second : Model, HasPlainNames first → HasPlainNames second →
      (signature first = signature second ↔ SameOutline first second)) ∧
    (∀ source node decorators depth budget,
      ∀ function ∈ (function? source node decorators depth budget).2, function.name ≠ "") ∧
    ∀ path text root budget,
      HasNames (model path text root budget).2.functions
        (model path text root budget).2.classes := by
  refine ⟨fun first second firstPlain secondPlain => ?_, name_ne_empty_of_function?, model_hasNames⟩
  have functions := join_names_inj firstPlain.functions secondPlain.functions
  have imports := join_names_inj firstPlain.imports secondPlain.imports
  have classes := join_outlineText_inj (List.forall_mem_map.mpr firstPlain.classes)
    (List.forall_mem_map.mpr secondPlain.classes)
  rw [signature_inj firstPlain secondPlain, signatureParts_inj, map_classSignature,
    map_classSignature, classes]
  constructor
  · rintro ⟨⟨functionCount, -, importCount, globals⟩, functionNames, outlines, importNames⟩
    exact ⟨(functions functionCount).mp functionNames, outlines,
      (imports importCount).mp importNames, globals⟩
  · rintro ⟨functionNames, outlines, importNames, globals⟩
    have functionCount : first.functions.length = second.functions.length := by
      simpa using congrArg List.length functionNames
    have classCount : first.classes.length = second.classes.length := by
      simpa using congrArg List.length outlines
    have importCount : first.imports.length = second.imports.length := by
      simpa using congrArg List.length importNames
    exact ⟨⟨functionCount, classCount, importCount, globals⟩,
      (functions functionCount).mpr functionNames, outlines, (imports importCount).mpr importNames⟩

/-- A structure with classes of some outlines and imports of some modules. -/
def modelWith (outlines : List (String × List String)) (modules : List String) : Model where
  path := "m.py"
  classes := outlines.map fun outline =>
    { name := outline.1, methods := outline.2.map fun name => { name } }
  imports := modules.map fun moduleName => { moduleName }

/-- A method that moves to the next class changes the signature, and so does an import of a module
without a name; another path does not. The function of a file with one function has a name. -/
theorem signature_eq_iff_sameOutline_modelWith :
    let together := modelWith [("A", ["m", "n"]), ("B", [])] []
    let apart := modelWith [("A", ["m"]), ("B", ["n"])] []
    let importing := modelWith [("A", ["m"]), ("B", ["n"])] [""]
    ((HasPlainNames together ∧ HasPlainNames apart ∧ HasPlainNames importing) ∧
      signature together ≠ signature apart ∧ signature apart ≠ signature importing ∧
      signature { apart with path := "n.py" } = signature apart) ∧
      (∃ node ∈ generatorTree.children, ∃ function ∈
        (function? (Source.ofString "def f():\n yield") node [] 1 {}).2, function.name ≠ "") ∧
      ∃ function ∈ (model "f.py" "def f():\n yield" generatorTree {}).2.functions,
        function.name ≠ "" := by
  intro together apart importing
  obtain ⟨tells, namesOne, namesAll⟩ := signature_eq_iff_sameOutline
  have togetherPlain : HasPlainNames together := by decide
  have apartPlain : HasPlainNames apart := by decide
  have importingPlain : HasPlainNames importing := by decide
  refine ⟨⟨⟨togetherPlain, apartPlain, importingPlain⟩, ?_, ?_, ?_⟩, ?_, ?_⟩
  · exact mt (tells together apart togetherPlain apartPlain).mp (by decide)
  · exact mt (tells apart importing apartPlain importingPlain).mp (by decide)
  · exact (tells { apart with path := "n.py" } apart (by decide) apartPlain).mpr (by decide)
  · have isFunction : ∃ node ∈ generatorTree.children,
        (function? (Source.ofString "def f():\n yield") node [] 1 {}).2.isSome := by
      decide +kernel
    obtain ⟨node, isChild, isSome⟩ := isFunction
    obtain ⟨function, isMade⟩ := Option.isSome_iff_exists.mp isSome
    exact ⟨node, isChild, function, isMade, namesOne _ _ _ _ _ function isMade⟩
  · have isFound : (model "f.py" "def f():\n yield" generatorTree {}).2.functions ≠ [] := by
      decide +kernel
    obtain ⟨function, isMember⟩ := List.exists_mem_of_ne_nil _ isFound
    exact ⟨function, isMember, (namesAll _ _ _ _).functions function isMember⟩

end SourceFacts.Cache
