import BidiViewport.Bidi.Sequence

/-!
# Weak types

Rules W1 to W7 on the classes of one isolating run sequence, each as one pass.
-/

namespace BidiViewport

namespace Weak

/-- The class of a strong character of a direction. -/
def strong : Direction → BidiClass
  | .ltr => .L
  | .rtl => .R

/-- W1: a nonspacing mark takes the class of the character before it, and is neutral
after an isolate formatting character. -/
def marks (previous : BidiClass) : List BidiClass → List BidiClass
  | [] => []
  | c :: rest =>
    let c := if c = .NSM then if previous.isIsolateFormat then .ON else previous else c
    c :: marks c rest

/-- W2: European numbers after an Arabic letter are Arabic numbers. -/
def numbers (afterArabic : Bool) : List BidiClass → List BidiClass
  | [] => []
  | c :: rest =>
    let afterArabic : Bool := match c with
      | .AL => true
      | .L | .R => false
      | _ => afterArabic
    (if c = .EN ∧ afterArabic then .AN else c) :: numbers afterArabic rest

/-- W3: Arabic letters are right-to-left. -/
def arabicLetters (classes : List BidiClass) : List BidiClass :=
  classes.map fun c => if c = .AL then .R else c

/-- W4: a single separator between two numbers of one kind joins them. -/
def separators (previous : BidiClass) : List BidiClass → List BidiClass
  | [] => []
  | c :: rest =>
    (match previous, c, rest.head? with
      | .EN, .ES, some .EN | .EN, .CS, some .EN => .EN
      | .AN, .CS, some .AN => .AN
      | _, _, _ => c) :: separators c rest

/-- The first half of W5: terminators before a European number. -/
def terminatorsBefore : List BidiClass → List BidiClass
  | [] => []
  | c :: rest =>
    let rest := terminatorsBefore rest
    (if c = .ET ∧ rest.head? = some .EN then .EN else c) :: rest

/-- The second half of W5: terminators after a European number. -/
def terminatorsAfter (afterNumber : Bool) : List BidiClass → List BidiClass
  | [] => []
  | c :: rest =>
    let c := if c = .ET ∧ afterNumber then .EN else c
    c :: terminatorsAfter (c = .EN) rest

/-- W6: the remaining separators and terminators are neutral. -/
def leftovers (classes : List BidiClass) : List BidiClass :=
  classes.map fun c => if c = .ES ∨ c = .ET ∨ c = .CS then .ON else c

/-- W7: European numbers after a left-to-right character are left-to-right. -/
def europeanNumbers (last : Direction) : List BidiClass → List BidiClass
  | [] => []
  | c :: rest =>
    let last := match c with
      | .L => .ltr
      | .R => .rtl
      | _ => last
    (if c = .EN ∧ last = .ltr then .L else c) :: europeanNumbers last rest

/-- All weak rules, in their order. -/
def resolve (sos : Direction) (classes : List BidiClass) : List BidiClass :=
  classes |> marks (strong sos) |> numbers false |> arabicLetters |> separators (strong sos)
    |> terminatorsBefore |> terminatorsAfter false |> leftovers |> europeanNumbers sos

end Weak

end BidiViewport
