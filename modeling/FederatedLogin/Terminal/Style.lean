import FederatedLogin.Text.Blank
import FederatedLogin.Text.Case
import FederatedLogin.Text.Digit

/-!
# Names of styles

A style is named by words: attributes such as `bold` or `not dim`, a colour, `on` and a colour for
the ground, and `link` with an address. One style has many names; `Style.name` is the same for all
of them. A name that is no style counts in lower case, but a colour with three numbers one of which
cannot be read is an error.
-/

namespace FederatedLogin.Terminal

open FederatedLogin.Text

/-- The names of the colours, with spacing between them. -/
def colourWords : String :=
  "default black red green yellow blue magenta cyan white bright_black bright_red bright_green
    bright_yellow bright_blue bright_magenta bright_cyan bright_white grey0 gray0 navy_blue
    dark_blue blue3 blue1 dark_green deep_sky_blue4 dodger_blue3 dodger_blue2 green4
    spring_green4 turquoise4 deep_sky_blue3 dodger_blue1 green3 spring_green3 dark_cyan
    light_sea_green deep_sky_blue2 deep_sky_blue1 spring_green2 cyan3 dark_turquoise turquoise2
    green1 spring_green1 medium_spring_green cyan2 cyan1 dark_red deep_pink4 purple4 purple3
    blue_violet orange4 grey37 gray37 medium_purple4 slate_blue3 royal_blue1 chartreuse4
    dark_sea_green4 pale_turquoise4 steel_blue steel_blue3 cornflower_blue chartreuse3
    cadet_blue sky_blue3 steel_blue1 pale_green3 sea_green3 aquamarine3 medium_turquoise
    chartreuse2 sea_green2 sea_green1 aquamarine1 dark_slate_gray2 dark_magenta dark_violet
    purple light_pink4 plum4 medium_purple3 slate_blue1 yellow4 wheat4 grey53 gray53
    light_slate_grey light_slate_gray medium_purple light_slate_blue dark_olive_green3
    dark_sea_green light_sky_blue3 sky_blue2 dark_sea_green3 dark_slate_gray3 sky_blue1
    chartreuse1 light_green pale_green1 dark_slate_gray1 red3 medium_violet_red magenta3
    dark_orange3 indian_red hot_pink3 medium_orchid3 medium_orchid medium_purple2 dark_goldenrod
    light_salmon3 rosy_brown grey63 gray63 medium_purple1 gold3 dark_khaki navajo_white3 grey69
    gray69 light_steel_blue3 light_steel_blue yellow3 dark_sea_green2 light_cyan3
    light_sky_blue1 green_yellow dark_olive_green2 dark_sea_green1 pale_turquoise1 deep_pink3
    magenta2 hot_pink2 orchid medium_orchid1 orange3 light_pink3 pink3 plum3 violet
    light_goldenrod3 tan misty_rose3 thistle3 plum2 khaki3 light_goldenrod2 light_yellow3 grey84
    gray84 light_steel_blue1 yellow2 dark_olive_green1 honeydew2 light_cyan1 red1 deep_pink2
    deep_pink1 magenta1 orange_red1 indian_red1 hot_pink dark_orange salmon1 light_coral
    pale_violet_red1 orchid2 orchid1 orange1 sandy_brown light_salmon1 light_pink1 pink1 plum1
    gold1 navajo_white1 misty_rose1 thistle1 yellow1 light_goldenrod1 khaki1 wheat1 cornsilk1
    grey100 gray100 grey3 gray3 grey7 gray7 grey11 gray11 grey15 gray15 grey19 gray19 grey23
    gray23 grey27 gray27 grey30 gray30 grey35 gray35 grey39 gray39 grey42 gray42 grey46 gray46
    grey50 gray50 grey54 gray54 grey58 gray58 grey62 gray62 grey66 gray66 grey70 gray70 grey74
    gray74 grey78 gray78 grey82 gray82 grey85 gray85 grey89 gray89 grey93 gray93"

/-- A number of at most 255. -/
def isByte (s : List Char) : Bool :=
  match s.mapM digitValue? with
  | some ds => !ds.isEmpty && ds.foldl (fun n d => n * 10 + d) 0 ≤ 255
  | none => false

/-- The text between a beginning and an end. -/
def between? (before after : String) (s : List Char) : Option (List Char) :=
  if before.toList.isPrefixOf s ∧ after.toList.isSuffixOf s then
    some ((s.drop before.length).take (s.length - before.length - after.length))
  else none

/-- Split at commas; `got` is the part at hand, reversed. -/
def splitCommas (got : List Char) : List Char → List (List Char)
  | [] => [got.reverse]
  | ',' :: rest => got.reverse :: splitCommas [] rest
  | c :: rest => splitCommas (c :: got) rest

/-- A hexadecimal digit in lower case. -/
def isLowerHex (c : Char) : Bool := ('0' ≤ c && c ≤ '9') || ('a' ≤ c && c ≤ 'f')

/-- A word in lower case is a colour: a name, `#` and six digits, `color(n)` or `rgb(r,g,b)`. -/
def isColour (word : List Char) : Bool :=
  (words colourWords.toList).contains word ||
    (match word with
      | '#' :: digits => digits.length == 6 && digits.all isLowerHex
      | _ => false) ||
    (match between? "color(" ")" word with
      | some n => n.length ≤ 3 && n.all (fun c => '0' ≤ c && c ≤ '9') && isByte n
      | none => false) ||
    match between? "rgb(" ")" word with
      | some parts => (splitCommas [] parts).length == 3 && (splitCommas [] parts).all isByte
      | none => false

/-- A number of a colour that cannot be read: it has no digits, or more than are read. -/
inductive NumberFault where
  | missing
  | oversized (digits : Nat)
  deriving DecidableEq, Repr

/-- The wording of a fault. -/
def NumberFault.message : NumberFault → String
  | missing => "invalid literal for int() with base 10: ''"
  | oversized digits =>
    s!"Exceeds the limit (4300 digits) for integer string conversion: value has {digits} digits; " ++
      "use sys.set_int_max_str_digits() to increase the limit"

/-- What is wrong with the first of some numbers that cannot be read. -/
def numberFault? (numbers : List (List Char)) : Option NumberFault :=
  numbers.findSome? fun n =>
    if n.isEmpty then some .missing
    else if 4300 < n.length then some (.oversized n.length)
    else none

/-- A word in lower case is a colour; three numbers that cannot be read are an error. -/
def colour? (word : List Char) : Except NumberFault Bool :=
  match between? "rgb(" ")" word with
  | some numbers =>
    let parts := splitCommas [] numbers
    if parts.length == 3 && parts.all (·.all fun c => (digitValue? c).isSome) then
      match numberFault? parts with
      | some f => .error f
      | none => .ok (isColour word)
    else .ok (isColour word)
  | none => .ok (isColour word)

/-- The attributes in their order, each with its short names. -/
def attributes : List (String × List String) :=
  [("bold", ["b"]), ("dim", ["d"]), ("italic", ["i"]), ("underline", ["u"]), ("blink", []),
    ("blink2", []), ("reverse", ["r"]), ("conceal", ["c"]), ("strike", ["s"]),
    ("underline2", ["uu"]), ("frame", []), ("encircle", []), ("overline", ["o"])]

/-- The attribute with a name, long or short. -/
def attribute? (word : List Char) : Option String :=
  (attributes.find? fun a => (a.1 :: a.2).any fun n => n.toList == word).map (·.1)

/-- A style. -/
structure Style where
  /-- The attributes that are set, each on or off; the last setting counts. -/
  set : List (String × Bool) := []
  colour : Option (List Char) := none
  ground : Option (List Char) := none
  link : Option (List Char) := none

namespace Style

/-- Add the words of a name to a style; nothing comes of a name that is no style. -/
def readWords (s : Style) : List (List Char) → Except NumberFault (Option Style)
  | [] => .ok (some s)
  | word :: rest =>
    let lower := lowerChars word
    if lower = "on".toList then
      match rest with
      | [] => .ok none
      | c :: rest => do
        if ← colour? (lowerChars c) then readWords { s with ground := some (lowerChars c) } rest
        else return none
    else if lower = "not".toList then
      match rest with
      | [] => .ok none
      | a :: rest =>
        match attribute? a with
        | some a => readWords { s with set := (a, false) :: s.set } rest
        | none => .ok none
    else if lower = "link".toList then
      match rest with
      | [] => .ok none
      | l :: rest => readWords { s with link := some l } rest
    else
      match attribute? lower with
      | some a => readWords { s with set := (a, true) :: s.set } rest
      | none => do
        if ← colour? lower then readWords { s with colour := some lower } rest else return none

/-- The style that a name stands for, if it is one. -/
def read (name : List Char) : Except NumberFault (Option Style) :=
  if stripBy isSpacing name = "none".toList then .ok (some {}) else readWords {} (Text.words name)

/-- The words of a style: attributes in their order, then the colours and the link. -/
def wording (s : Style) : List (List Char) :=
  (attributes.flatMap fun a =>
    match s.set.lookup a.1 with
    | some true => [a.1.toList]
    | some false => ["not".toList, a.1.toList]
    | none => []) ++ s.colour.toList ++
      (s.ground.toList.flatMap fun c => ["on".toList, c]) ++
      s.link.toList.flatMap fun l => ["link".toList, l]

/-- Words with blanks between them. -/
def joined : List (List Char) → List Char
  | [] => []
  | [w] => w
  | w :: rest => w ++ ' ' :: joined rest

/-- The one name of a style that all its names share; of any other text, its lower case. -/
def name (given : List Char) : Except NumberFault (List Char) := do
  match ← read given with
  | some s => return if s.wording.isEmpty then "none".toList else joined s.wording
  | none => return lowerChars (stripBy isSpacing given)

end Style

end FederatedLogin.Terminal
