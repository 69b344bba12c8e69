import Readiness.Text.Classes

/-! # Direction of writing

Some scripts are written from right to left, and digits from left to right in all of them. The
tables follow the property Bidi_Class. -/
namespace Readiness.Text

def rightToLeftRanges : List (Nat × Nat) :=
  [(0x590, 0x590), (0x5BE, 0x5BE), (0x5C0, 0x5C0), (0x5C3, 0x5C3), (0x5C6, 0x5C6), (0x5C8, 0x5FF),
   (0x608, 0x608), (0x60B, 0x60B), (0x60D, 0x60D), (0x61B, 0x64A), (0x66D, 0x66F), (0x671, 0x6D5),
   (0x6E5, 0x6E6), (0x6EE, 0x6EF), (0x6FA, 0x710), (0x712, 0x72F), (0x74B, 0x7A5), (0x7B1, 0x7EA),
   (0x7F4, 0x7F5), (0x7FA, 0x7FC), (0x7FE, 0x815), (0x81A, 0x81A), (0x824, 0x824), (0x828, 0x828),
   (0x82E, 0x858), (0x85C, 0x88F), (0x892, 0x897), (0x8A0, 0x8C9), (0x200F, 0x200F),
   (0xFB1D, 0xFB1D), (0xFB1F, 0xFB28), (0xFB2A, 0xFD3D), (0xFD50, 0xFDCE), (0xFDF0, 0xFDFC),
   (0xFE70, 0xFEFE), (0x10800, 0x1091E), (0x10920, 0x10A00), (0x10A04, 0x10A04), (0x10A07, 0x10A0B),
   (0x10A10, 0x10A37), (0x10A3B, 0x10A3E), (0x10A40, 0x10AE4), (0x10AE7, 0x10B38),
   (0x10B40, 0x10D23), (0x10D28, 0x10D2F), (0x10D3A, 0x10E5F), (0x10E7F, 0x10EAA),
   (0x10EAD, 0x10EFC), (0x10F00, 0x10F45), (0x10F51, 0x10F81), (0x10F86, 0x10FFF),
   (0x1E800, 0x1E8CF), (0x1E8D7, 0x1E943), (0x1E94B, 0x1EEEF), (0x1EEF2, 0x1EFFF)]

def arabicDigitRanges : List (Nat × Nat) :=
  [(0x600, 0x605), (0x660, 0x669), (0x66B, 0x66C), (0x6DD, 0x6DD), (0x890, 0x891), (0x8E2, 0x8E2),
   (0x10D30, 0x10D39), (0x10E60, 0x10E7E)]

def digitRanges : List (Nat × Nat) :=
  [(0x30, 0x39), (0xB2, 0xB3), (0xB9, 0xB9), (0x6F0, 0x6F9), (0x2070, 0x2070), (0x2074, 0x2079),
   (0x2080, 0x2089), (0x2488, 0x249B), (0xFF10, 0xFF19), (0x102E1, 0x102FB), (0x1D7CE, 0x1D7FF),
   (0x1F100, 0x1F10A), (0x1FBF0, 0x1FBF9)]

inductive Direction where
  | leftToRight
  | rightToLeft
  | digit
  | arabicDigit
  | mark
  | neutral
deriving DecidableEq

/-- A mark belongs to the character before it and is not seen alone. -/
def isMark (c : Char) : Bool := isHidden c && isWordChar c

def direction (c : Char) : Direction :=
  if inRanges c.toNat rightToLeftRanges then .rightToLeft
  else if inRanges c.toNat digitRanges then .digit
  else if inRanges c.toNat arabicDigitRanges then .arabicDigit
  else if isMark c then .mark
  else if isWordChar c && c != '_' then .leftToRight
  else .neutral

namespace Direction

/-- Whether a part of a name shows in one order only, next to any other part that does so: it
begins with a letter, ends with a letter or a digit and does not change its direction. -/
def isSteady (directions : List Direction) : Bool :=
  let last := (directions.reverse.dropWhile (· = .mark)).head?
  match directions.head? with
  | some .rightToLeft =>
    !directions.contains .leftToRight && last.any [rightToLeft, digit, arabicDigit].contains &&
      !(directions.contains .digit && directions.contains .arabicDigit)
  | some .leftToRight =>
    !directions.contains .rightToLeft && !directions.contains .arabicDigit &&
      last.any [leftToRight, digit].contains
  | some _ => false
  | none => true

end Direction

end Readiness.Text
