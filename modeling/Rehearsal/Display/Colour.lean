import Rehearsal.Decimal.Numeral
import Rehearsal.Text.Class
import Rehearsal.Text.Small

namespace Rehearsal.Display.Colour

inductive Fault
  | unknown
  /-- a share has no digits -/
  | noDigits
  | tooManyDigits (digits : Nat)
  deriving DecidableEq, Repr

def Fault.message : Fault → String
  | unknown => "unknown colour"
  | noDigits => "invalid literal for int() with base 10: ''"
  | tooManyDigits digits => Decimal.tooManyDigits digits

def greys : List Nat :=
  [0, 3, 7, 11, 15, 19, 23, 27, 30, 35, 37, 39, 42, 46, 50, 53, 54, 58, 62, 63, 66, 69, 70, 74, 78,
    82, 84, 85, 89, 93, 100]

def names : List String := [
  "black red green yellow blue magenta cyan white bright_black bright_red bright_green",
  "bright_yellow bright_blue bright_magenta bright_cyan bright_white navy_blue dark_blue blue3",
  "blue1 dark_green deep_sky_blue4 dodger_blue3 dodger_blue2 green4 spring_green4 turquoise4",
  "deep_sky_blue3 dodger_blue1 green3 spring_green3 dark_cyan light_sea_green deep_sky_blue2",
  "deep_sky_blue1 spring_green2 cyan3 dark_turquoise turquoise2 green1 spring_green1",
  "medium_spring_green cyan2 cyan1 dark_red deep_pink4 purple4 purple3 blue_violet orange4",
  "medium_purple4 slate_blue3 royal_blue1 chartreuse4 dark_sea_green4 pale_turquoise4",
  "steel_blue steel_blue3 cornflower_blue chartreuse3 cadet_blue sky_blue3 steel_blue1",
  "pale_green3 sea_green3 aquamarine3 medium_turquoise chartreuse2 sea_green2 sea_green1",
  "aquamarine1 dark_slate_gray2 dark_magenta dark_violet purple light_pink4 plum4",
  "medium_purple3 slate_blue1 yellow4 wheat4 light_slate_grey light_slate_gray medium_purple",
  "light_slate_blue dark_olive_green3 dark_sea_green light_sky_blue3 sky_blue2 dark_sea_green3",
  "dark_slate_gray3 sky_blue1 chartreuse1 light_green pale_green1 dark_slate_gray1 red3",
  "medium_violet_red magenta3 dark_orange3 indian_red hot_pink3 medium_orchid3 medium_orchid",
  "medium_purple2 dark_goldenrod light_salmon3 rosy_brown medium_purple1 gold3 dark_khaki",
  "navajo_white3 light_steel_blue3 light_steel_blue yellow3 dark_sea_green2 light_cyan3",
  "light_sky_blue1 green_yellow dark_olive_green2 dark_sea_green1 pale_turquoise1 deep_pink3",
  "magenta2 hot_pink2 orchid medium_orchid1 orange3 light_pink3 pink3 plum3 violet",
  "light_goldenrod3 tan misty_rose3 thistle3 plum2 khaki3 light_goldenrod2 light_yellow3",
  "light_steel_blue1 yellow2 dark_olive_green1 honeydew2 light_cyan1 red1 deep_pink2 deep_pink1",
  "magenta1 orange_red1 indian_red1 hot_pink dark_orange salmon1 light_coral pale_violet_red1",
  "orchid2 orchid1 orange1 sandy_brown light_salmon1 light_pink1 pink1 plum1 gold1",
  "navajo_white1 misty_rose1 thistle1 yellow1 light_goldenrod1 khaki1 wheat1 cornsilk1"]

def isName (word : String) : Bool :=
  word == "default" ||
    names.any (fun row => (row.splitOn " ").contains word) ||
    greys.any fun n => word == s!"grey{n}" || word == s!"gray{n}"

def within? (opening : String) (word : List Char) : Option (List Char) :=
  if opening.toList.isPrefixOf word && word.getLast? == some ')' then
    some ((word.drop opening.length).dropLast)
  else none

def maxShare : Nat := 255

def share (digits : List Char) : Except Fault Nat :=
  if digits.isEmpty then .error .noDigits
  else if Decimal.maxDigits < digits.length then .error (.tooManyDigits digits.length)
  else .ok (digits.foldl (fun n c => 10 * n + (Text.digitValue? c.toNat).getD 0) 0)

def checkShares (inner : List Char) : Except Fault Unit :=
  if inner.isEmpty || inner.any (fun c => c != ',' && (Text.digitValue? c.toNat).isNone) then
    .error .unknown
  else
    match (String.ofList inner).splitOn "," with
    | [red, green, blue] => do
      let red ← share red.toList
      let green ← share green.toList
      let blue ← share blue.toList
      if maxShare < max red (max green blue) then .error .unknown else .ok ()
    | _ => .error .unknown

def isNumbered (word : List Char) : Bool :=
  match within? "color(" word with
  | some inner =>
    inner.length ∈ [1, 2, 3] && inner.all Decimal.isDigit && Decimal.value 10 inner ≤ maxShare
  | none => false

def isSmallHex (c : Char) : Bool := Decimal.isDigit c || ('a' ≤ c && c ≤ 'f')

def read (word : String) : Except Fault String :=
  let word := Text.small word
  let chars := word.toList
  if isName word || isNumbered chars then .ok word
  else if chars.head? = some '#' && chars.length == 7 && chars.tail.all isSmallHex then .ok word
  else
    match within? "rgb(" chars with
    | some inner => (checkShares inner).map fun _ => word
    | none => .error .unknown

end Rehearsal.Display.Colour
