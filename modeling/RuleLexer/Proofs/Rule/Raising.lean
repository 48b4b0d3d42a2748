import RuleLexer.Proofs.Rule.Extension
import RuleLexer.Proofs.Source.Range

namespace RuleLexer

namespace Flags

end Flags

/-- Under the flags the text is not asked to be read both as ASCII and as Unicode. -/
def Flags.agreeWith (flags : Flags) (text : List Char) : Bool :=
  !((flags.has .ascii || Lexeme.asksFor .ascii text) && Lexeme.asksFor .unicode text)

/-- The text's numbers and the counts in its braces are in range, and by itself it does not ask for
flags that are at odds. -/
def isModerate (flags : Flags) (source : List Char) : Bool :=
  Segment.areInRange source &&
    match renumber source (countCaptures source) (-1) with
    | .ok text => Lexeme.bracesFit text && flags.agreeWith text
    | .error _ => true

theorem Places.bracesFit {asked : Int} {flags : Flags} {offset total : Nat}
    {sources : List (List Char)} {rules : List CompiledRule}
    (places : Places (Placed asked) offset sources rules total)
    (moderate : ∀ source ∈ sources, isModerate flags source = true) :
    ∀ rule ∈ rules, Lexeme.bracesFit rule.patternText = true := by
  induction places with
  | nil => nofun
  | cons first rest ih =>
    obtain ⟨here, later⟩ := List.forall_mem_cons.mp moderate
    refine List.forall_mem_cons.mpr ⟨?_, ih later⟩
    obtain ⟨text, _, alone, -⟩ := first.alone
    obtain ⟨-, here⟩ := Bool.and_eq_true_iff.mp here
    rw [alone] at here
    exact bracesFit_of_renumber alone first.text (Bool.and_eq_true_iff.mp here).1

theorem Places.areInRange {asked : Int} {offset total : Nat} {sources : List (List Char)}
    {rules : List CompiledRule} (places : Places (Placed asked) offset sources rules total) :
    ∀ source ∈ sources, Segment.areInRange source = true := by
  induction places with
  | nil => nofun
  | cons first rest ih =>
    exact List.forall_mem_cons.mpr ⟨areInRange_of_renumber first.text, ih⟩

section

variable {config : Config} {flags : List Flag}
  (number : config.flags.toInt? = some ((Flags.ofList flags).bits : Int))
  (own : ∀ flag ∈ flags, flag ∈ Normal.scopedFlags.map Prod.fst)

include number own

end

namespace RuleSet

end RuleSet

end RuleLexer
