import RuleLexer.Text.Ranges

namespace RuleLexer.Text

def blankRanges : Ranges :=
  [(0x9, 0xD), (0x1C, 0x20), (0x85, 0x85), (0xA0, 0xA0), (0x1680, 0x1680), (0x2000, 0x200A),
   (0x2028, 0x2029), (0x202F, 0x202F), (0x205F, 0x205F), (0x3000, 0x3000)]

def isBlank (code : Nat) : Bool :=
  blankRanges.has code

def isAsciiBlank (code : Nat) : Bool :=
  (0x9 ≤ code && code ≤ 0xD) || code == 0x20

theorem isBlank_of_isAsciiBlank (code : Nat) (blank : isAsciiBlank code = true) :
    isBlank code = true := by
  simp only [isAsciiBlank, Bool.or_eq_true, Bool.and_eq_true, decide_eq_true_eq, beq_iff_eq]
    at blank
  simp only [isBlank, blankRanges, Ranges.has, List.any_cons, List.any_nil, Bool.or_eq_true,
    Bool.and_eq_true, decide_eq_true_eq]
  omega

end RuleLexer.Text
