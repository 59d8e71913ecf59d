import Mathlib
import PropertySettings.Proofs.UsageLines

/-!
# What a usage text shows

A usage text shows of each declaration its **description**: the key, the tag and the lines. Its
blocks are lines with an empty line between them (`Registry.intercalate_usageBlocks`), and every
line of a block is indented, so that an empty one ends a block. So the descriptions can be read off
the text (`Registry.descriptionsIn_usage`), as long as keys and lines are single lines and no key
ends with a parenthesis, which could belong to a tag. They may look like any other part of the text:
what stands before the blocks and behind them is found by its length.
-/

namespace PropertySettings

/-! ### Texts of lines -/

namespace Text

theorem unlines_append (first second : List Text) :
    unlines (first ++ second) = unlines first ++ unlines second :=
  List.flatMap_append

/-- Lines are cut at their ends. -/
theorem pieces_unlines {lines : List Text} (h : ∀ line ∈ lines, '\n' ∉ line) :
    pieces ['\n'] (unlines lines) = lines ++ [[]] := by
  induction lines with
  | nil => rfl
  | cons line rest ih =>
    obtain ⟨hline, hrest⟩ := List.forall_mem_cons.mp h
    have hunlines : unlines (line :: rest) = line ++ ['\n'] ++ unlines rest := List.flatMap_cons
    rw [hunlines, pieces_append (by simp) (endsFirst_of_not_mem hline []), ih hrest,
      List.cons_append]

/-- Texts of lines with a line feed between them have an empty line there. -/
theorem intercalate_unlines (blocks : List (List Text)) :
    List.intercalate ['\n'] (blocks.map unlines) = unlines (List.intercalate [[]] blocks) := by
  induction blocks with
  | nil => rfl
  | cons block rest ih =>
    cases rest with
    | nil => rw [List.map_singleton, List.intercalate_singleton, List.intercalate_singleton]
    | cons second rest =>
      rw [List.map_cons, List.map_cons, List.intercalate_cons_cons, ← List.map_cons, ih,
        List.intercalate_cons_cons, unlines_append, unlines_append]
      rfl

end Text

/-! ### Descriptions -/

/-- What is shown of a declaration. -/
structure Description where
  key : Text
  tag : Text
  lines : List Text
deriving DecidableEq

/-- What the usage text shows of the declaration; the key that it replaces is not shown. -/
def Declaration.description (d : Declaration) : Description :=
  ⟨d.key, d.role.tag, d.lines⟩

/-- The key and the lines are single lines, and the key does not end with a parenthesis. -/
def Declaration.Legible (d : Declaration) : Prop :=
  '\n' ∉ d.key ∧ d.key.getLast? ≠ some ')' ∧ ∀ line ∈ d.lines, '\n' ∉ line

instance (d : Declaration) : Decidable d.Legible :=
  inferInstanceAs (Decidable (_ ∧ _ ∧ ∀ line ∈ _, _))

namespace Description

/-- The line with the key, without its indentation. -/
def keyLine (key tag : Text) : Text :=
  key ++ if tag = [] then [] else " (".toList ++ tag ++ ")".toList

/-- The lines of a block. -/
def toLines (d : Description) : List Text :=
  ("  ".toList ++ keyLine d.key d.tag) :: d.lines.map ("      ".toList ++ ·)

/-- The key and the tag in a line: if the line ends with a parenthesis, the tag is what stands
between the last two. -/
def readKeyLine (line : Text) : Text × Text :=
  if line.getLast? = some ')' then
    let behind := line.dropLast.reverse
    (((behind.dropWhile (· ≠ '(')).drop 2).reverse, (behind.takeWhile (· ≠ '(')).reverse)
  else (line, [])

/-- The description in the lines of a block; no lines are no block. -/
def ofLines? : List Text → Option Description
  | [] => none
  | line :: rest =>
    let (key, tag) := readKeyLine (line.drop 2)
    some ⟨key, tag, rest.map (·.drop 6)⟩

/-- What it takes for a description to be read off its lines. -/
structure Legible (d : Description) : Prop where
  key : '\n' ∉ d.key
  close : d.key.getLast? ≠ some ')'
  tag : '\n' ∉ d.tag
  unopened : '(' ∉ d.tag
  lines : ∀ line ∈ d.lines, '\n' ∉ line

variable {d : Description} {key tag line : Text}

theorem legible_of_declaration {d : Declaration} (h : d.Legible) : d.description.Legible := by
  obtain ⟨hkey, hclose, hlines⟩ := h
  have htag : '\n' ∉ d.role.tag ∧ '(' ∉ d.role.tag := by cases d.role <;> decide
  exact ⟨hkey, hclose, htag.1, htag.2, hlines⟩

theorem readKeyLine_keyLine (hkey : key.getLast? ≠ some ')') (htag : '(' ∉ tag) :
    readKeyLine (keyLine key tag) = (key, tag) := by
  by_cases hnil : tag = []
  · simp [readKeyLine, keyLine, hnil, hkey]
  · have hline : keyLine key tag = (key ++ " (".toList ++ tag) ++ [')'] := by
      simp [keyLine, hnil]
    have hbehind : (keyLine key tag).dropLast.reverse
        = tag.reverse ++ '(' :: (' ' :: key.reverse) := by
      rw [hline, List.dropLast_concat]
      simp
    have hfree : '(' ∉ tag.reverse := mt List.mem_reverse.mp htag
    have hclosed : (keyLine key tag).getLast? = some ')' := by rw [hline, List.getLast?_concat]
    simp only [readKeyLine, if_pos hclosed, hbehind, Text.takeWhile_ne_append_cons hfree,
      Text.dropWhile_ne_append_cons hfree, List.drop_succ_cons, List.drop_zero,
      List.reverse_reverse]

/-- The lines of a block tell the description. -/
theorem Legible.ofLines?_toLines (h : d.Legible) : ofLines? d.toLines = some d := by
  have hhead : ("  ".toList ++ keyLine d.key d.tag).drop 2 = keyLine d.key d.tag := rfl
  have hlines : (d.lines.map ("      ".toList ++ ·)).map (·.drop 6) = d.lines := by
    rw [List.map_map]
    exact List.map_id _
  rw [toLines, ofLines?, hhead, readKeyLine_keyLine h.close h.unopened, hlines]

theorem Legible.not_mem_of_mem_toLines (h : d.Legible) (hline : line ∈ d.toLines) :
    '\n' ∉ line := by
  rcases List.mem_cons.mp hline with rfl | hline
  · have hkeyLine : '\n' ∉ keyLine d.key d.tag := by
      rw [keyLine, List.mem_append, not_or]
      refine ⟨h.key, ?_⟩
      split
      · exact List.not_mem_nil
      · simpa using h.tag
    simpa using hkeyLine
  · obtain ⟨text, htext, rfl⟩ := List.mem_map.mp hline
    simpa using h.lines text htext

/-- No line of a block is empty, for all are indented. -/
theorem ne_nil_of_mem_toLines (h : line ∈ d.toLines) : line ≠ [] := by
  rcases List.mem_cons.mp h with rfl | h
  · exact List.cons_ne_nil _ _
  · obtain ⟨line, -, rfl⟩ := List.mem_map.mp h
    exact List.cons_ne_nil _ _

end Description

namespace Registry

variable {registry : Registry} {program t : Text}

/-! ### Reading a usage text -/

/-- What stands between the line of the program and the blocks. -/
def opening : Text :=
  "\n\n".toList ++ banner ++ "\nConfigurable system properties:\n\n".toList

/-- What stands behind the blocks. -/
def closing : Text :=
  "\n".toList ++ closingNote

/-- The blocks of a usage text. -/
def blocksIn (program t : Text) : Text :=
  let behind := (t.drop ("Usage: ".toList ++ program).length).dropWhile (· ≠ '\n')
  let blocks := behind.drop opening.length
  blocks.take (blocks.length - closing.length)

/-- The descriptions in a usage text. -/
def descriptionsIn (program t : Text) : List Description :=
  ((Text.pieces ['\n'] (blocksIn program t)).dropLast.splitOn []).filterMap Description.ofLines?

/-- The descriptions of the declarations. -/
def descriptions (registry : Registry) : List Description :=
  registry.declarations.map (·.description)

/-- Blocks are lines with an empty line between them. -/
theorem intercalate_usageBlocks (registry : Registry) :
    List.intercalate "\n".toList registry.usageBlocks
      = Text.unlines (List.intercalate [[]] (registry.descriptions.map (·.toLines))) := by
  have hblock : ∀ d : Declaration, d.usageBlock = Text.unlines d.description.toLines := fun d => by
    simp only [Declaration.usageBlock, PropertySettings.usageBlock, Description.toLines,
      Description.keyLine, Declaration.description, List.append_assoc]
  rw [← Text.intercalate_unlines, descriptions, List.map_map, List.map_map, usageBlocks]
  exact congrArg _ (List.map_congr_left fun d _ => hblock d)

/-- A usage text is the name of the program with something on the same line behind it, and the
blocks between the opening and the closing. -/
theorem exists_usage_eq (hkeys : ∀ key ∈ registry.keys, '\n' ∉ key) (program : Text) :
    ∃ tail, '\n' ∉ tail ∧ registry.usage program
      = "Usage: ".toList ++ program
        ++ (tail ++ (opening
          ++ (List.intercalate "\n".toList registry.usageBlocks ++ closing))) := by
  refine ⟨((registry.missing ∅).map placeholder).flatMap (" ".toList ++ ·), ?_, ?_⟩
  · simp only [missing_empty, List.mem_flatMap, List.mem_map]
    rintro ⟨option, ⟨key, hkey, rfl⟩, hmem⟩
    obtain ⟨d, hd, rfl⟩ := List.mem_map.mp hkey
    have hfree := hkeys d.key (List.mem_map_of_mem (List.mem_of_mem_filter hd))
    simp [placeholder, hfree] at hmem
  · rw [usage, usageLine_eq, opening, closing]
    simp only [List.append_assoc]
    rfl

/-- The blocks are found by what stands around them. -/
theorem blocksIn_usage (hkeys : ∀ key ∈ registry.keys, '\n' ∉ key) :
    blocksIn program (registry.usage program)
      = List.intercalate "\n".toList registry.usageBlocks := by
  obtain ⟨tail, htail, husage⟩ := exists_usage_eq hkeys program
  obtain ⟨rest, hopening⟩ : ∃ rest, opening = '\n' :: rest := ⟨_, rfl⟩
  have hbehind : ∀ more, (tail ++ (opening ++ more)).dropWhile (· ≠ '\n') = opening ++ more := by
    intro more
    rw [hopening, List.cons_append, Text.dropWhile_ne_append_cons htail]
  simp only [blocksIn, husage, List.drop_left, hbehind]
  rw [List.length_append, Nat.add_sub_cancel, List.take_left]

/-- Blocks of legible descriptions are cut where they were put together. -/
theorem filterMap_ofLines?_splitOn {descriptions : List Description}
    (hlegible : ∀ d ∈ descriptions, d.Legible) :
    ((List.intercalate [[]] (descriptions.map (·.toLines))).splitOn []).filterMap
        Description.ofLines?
      = descriptions := by
  by_cases hnil : descriptions = []
  · rw [hnil]
    rfl
  · have hblocks : ∀ block ∈ descriptions.map (·.toLines), [] ∉ block := by
      intro block hblock hmem
      obtain ⟨d, -, rfl⟩ := List.mem_map.mp hblock
      exact Description.ne_nil_of_mem_toLines hmem rfl
    rw [List.splitOn_intercalate [] hblocks (mt List.map_eq_nil_iff.mp hnil), List.filterMap_map]
    have hsome : ∀ d ∈ descriptions, (Description.ofLines? ∘ (·.toLines)) d = some d :=
      fun d hd => (hlegible d hd).ofLines?_toLines
    rw [List.filterMap_congr hsome, List.filterMap_some]

/-- **The descriptions can be read off the text.** -/
theorem descriptionsIn_usage (hlegible : ∀ d ∈ registry.declarations, d.Legible) (program : Text) :
    descriptionsIn program (registry.usage program) = registry.descriptions := by
  have hkeys : ∀ key ∈ registry.keys, '\n' ∉ key :=
    List.forall_mem_map.mpr fun d hd => (hlegible d hd).1
  have hdescriptions : ∀ d ∈ registry.descriptions, d.Legible :=
    List.forall_mem_map.mpr fun d hd => Description.legible_of_declaration (hlegible d hd)
  have hlines : ∀ line ∈ List.intercalate [[]] (registry.descriptions.map (·.toLines)),
      '\n' ∉ line := by
    intro line hline
    rcases Text.mem_of_mem_intercalate hline with ⟨hempty, -⟩ | ⟨block, hblock, hline⟩
    · simp [List.mem_singleton.mp hempty]
    · obtain ⟨d, hd, rfl⟩ := List.mem_map.mp hblock
      exact (hdescriptions d hd).not_mem_of_mem_toLines hline
  rw [descriptionsIn, blocksIn_usage hkeys, intercalate_usageBlocks, Text.pieces_unlines hlines,
    List.dropLast_concat, filterMap_ofLines?_splitOn hdescriptions]

/-- The descriptions tell which keys are required. -/
theorem requiredKeys_eq (registry : Registry) :
    registry.requiredKeys
      = (registry.descriptions.filter (·.tag = Role.name .required)).map (·.key) := by
  have htag : ∀ d : Declaration, decide (d.role = .required)
      = decide (d.description.tag = Role.name .required) := by
    intro d
    have hrole : ∀ role : Role, role = .required ↔ role.tag = Role.name .required := by
      intro role
      cases role <;> decide
    exact decide_eq_decide.mpr (hrole d.role)
  rw [requiredKeys, descriptions, List.filter_map, List.map_map]
  exact congrArg _ (List.filter_congr fun d _ => htag d)

/-- **A usage text loses nothing of what it shows.** As long as keys and lines are single lines and
no key ends with a parenthesis, whatever else they are and whatever the program is called, the
descriptions of the declarations can be read off the text. So registries with the same text have the
same keys, tags and lines, declaration by declaration, and the same required keys. -/
theorem usage_loses_nothing (program : Text) :
    (∀ registry : Registry, (∀ d ∈ registry.declarations, d.Legible) →
      descriptionsIn program (registry.usage program) = registry.descriptions) ∧
    ∀ first second : Registry, (∀ d ∈ first.declarations, d.Legible) →
      (∀ d ∈ second.declarations, d.Legible) → first.usage program = second.usage program →
        List.Forall₂ (fun d e : Declaration =>
          d.key = e.key ∧ d.role.tag = e.role.tag ∧ d.lines = e.lines)
            first.declarations second.declarations ∧
        first.requiredKeys = second.requiredKeys := by
  refine ⟨fun registry hlegible => descriptionsIn_usage hlegible program, ?_⟩
  intro first second hfirst hsecond husage
  have hsame : first.descriptions = second.descriptions := by
    rw [← descriptionsIn_usage hfirst program, husage, descriptionsIn_usage hsecond program]
  have heach : List.Forall₂ (fun d e : Declaration => d.description = e.description)
      first.declarations second.declarations := by
    have hequal := List.forall₂_eq_eq_eq.symm ▸ hsame
    exact List.forall₂_map_right_iff.mp (List.forall₂_map_left_iff.mp hequal)
  refine ⟨heach.imp fun d e heq => ?_, by rw [requiredKeys_eq, hsame, ← requiredKeys_eq]⟩
  exact Description.mk.inj heq

/-- A program with two lines, a key that looks like the line of a required one, a key that looks
like a placeholder, an empty key, and lines that are empty or look like another block. The texts are
the same although the first key replaces different keys, which is not shown. -/
theorem usage_of_odd_declarations :
    let odd (target : Text) : Registry := ⟨[
      .alternative "k (required".toList target ["".toList, "  z (required)".toList],
      .required " -Dz=?".toList [], .optional "".toList ["Usage: p".toList]]⟩
    let program : Text := "p\nq".toList
    (∀ d ∈ (odd "a".toList).declarations, d.Legible) ∧
      (∀ d ∈ (odd "b".toList).declarations, d.Legible) ∧
      (odd "a".toList).usage program = (odd "b".toList).usage program ∧
      (odd "a".toList).requiredKeys = (odd "b".toList).requiredKeys ∧
      descriptionsIn program ((odd "b".toList).usage program) = [
        ⟨"k (required".toList, "alternative".toList, ["".toList, "  z (required)".toList]⟩,
        ⟨" -Dz=?".toList, "required".toList, []⟩, ⟨"".toList, "".toList, ["Usage: p".toList]⟩] := by
  intro odd program
  obtain ⟨hread, hsame⟩ := usage_loses_nothing program
  have hfirst : ∀ d ∈ (odd "a".toList).declarations, d.Legible := by decide
  have hsecond : ∀ d ∈ (odd "b".toList).declarations, d.Legible := by decide
  have husage : (odd "a".toList).usage program = (odd "b".toList).usage program := rfl
  exact ⟨hfirst, hsecond, husage, (hsame _ _ hfirst hsecond husage).2, hread _ hsecond⟩

end Registry

end PropertySettings
