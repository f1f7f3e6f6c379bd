import ReductionIR.Console.PictographTable
import ReductionIR.Text.Lower
import ReductionIR.Text.Numeral
/-
Pictographs in printed text. A name between two colons, without a blank in it, gives way to
its pictograph; a name that has none stays as it is.
-/
namespace ReductionIR.Console

def pairsOf : List String → List (String × String)
  | name :: codes :: rest => (name, codes) :: pairsOf rest
  | _ => []

def hexValueOf (c : Char) : Nat := if c.isDigit then c.toNat - 48 else c.toNat - 87

def charactersOf (codes : String) : List Char :=
  (codes.splitOn "-").map fun code =>
    Char.ofNat (code.toList.foldl (fun n c => 16 * n + hexValueOf c) 0)

def listed? (name : String) : Option (List Char) :=
  ((pictographLines.flatMap fun line => pairsOf (line.splitOn " ")).lookup name).map charactersOf

/-- The endings that ask for a tone of skin, and the marks that give it. -/
def tones : List (String × Char) :=
  [("_light_skin_tone", Char.ofNat 0x1F3FB), ("_medium-light_skin_tone", Char.ofNat 0x1F3FC),
    ("_medium_skin_tone", Char.ofNat 0x1F3FD), ("_medium-dark_skin_tone", Char.ofNat 0x1F3FE),
    ("_dark_skin_tone", Char.ofNat 0x1F3FF)]

/-- Asks for the coloured form of the character before it. -/
def colouredMark : Char := Char.ofNat 0xFE0F

/-- Asks for the form of the character before it that looks like text. -/
def plainMark : Char := Char.ofNat 0xFE0E

/-- The mark of a tone goes after the first character, in place of a mark of form. -/
def withTone (tone : Char) : List Char → List Char
  | [] => []
  | c :: rest => c :: tone :: (if rest.head? = some colouredMark then rest.drop 1 else rest)

def toned? (name : String) : Option (List Char) :=
  tones.findSome? fun (ending, tone) =>
    if name.endsWith ending then
      let base := (name.dropEnd ending.length).toString
      if tonedLines.any fun line => (line.splitOn " ").contains base then
        (listed? base).map (withTone tone)
      else none
    else none

def pictograph? (name : String) : Option (List Char) :=
  let name := Text.lower name
  (listed? name).or (toned? name)

/-- The pictograph for what stands between two colons: a name, and then perhaps the form that
    is wanted. -/
def symbolOf? (code : String) : Option (List Char) :=
  if code.endsWith "-emoji" then
    (pictograph? (code.dropEnd 6).toString).map (· ++ [colouredMark])
  else if code.endsWith "-text" then
    (pictograph? (code.dropEnd 5).toString).map (· ++ [plainMark])
  else pictograph? code

/-- Put pieces that colons separate together again, with pictographs for names. A colon that
    closes a name opens no other. -/
def joinCodes : List String → String
  | before :: code :: after :: rest =>
    if code.toList.any Text.isBlank then before ++ ":" ++ joinCodes (code :: after :: rest)
    else
      before ++ ((symbolOf? code).elim (":" ++ code ++ ":") String.ofList) ++
        joinCodes (after :: rest)
  | [before, last] => before ++ ":" ++ last
  | [only] => only
  | [] => ""

def withPictographs (text : String) : String := joinCodes (text.splitOn ":")

end ReductionIR.Console
