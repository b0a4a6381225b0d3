import Stepwise.Machine.Utility.Text

/-!
# Programs that lay text out

Programs that number, fold and join lines, and those that show bytes as text: as numbers, as visible
characters, or in an alphabet of 64 letters.
-/

namespace Stepwise.Machine.Utility

/-- A text behind as many blanks as make it fill a width. -/
def padLeft (width : Nat) (text : Raw) : Raw := List.replicate (width - text.length) ' ' ++ text

/-- Pieces of a length, of which the last one may be shorter. The number bounds how many there
are. -/
def piecesOf (length : Nat) : Nat → Raw → List Raw
  | 0, _ | _, [] => []
  | fuel + 1, text => text.take length :: piecesOf length fuel (text.drop length)

/-! ## Lines -/

/-- Number lines: those that hold something, or all of them. -/
def nl : Program := transforming { plain := "p", valued := "bwsv" } fun options content =>
  let width := ((options.value? 'w').bind Raw.toNat?).getD 6
  let separator := (options.value? 's').getD ['\t']
  let all := options.value? 'b' = some ['a']
  let number (line : Raw) (n : Nat) : Raw × Nat :=
    if line.isEmpty && !all then (List.replicate (width + separator.length) ' ', n)
    else (padLeft width (Raw.ofNat n) ++ separator ++ line, n + 1)
  let first := ((options.value? 'v').bind Raw.toNat?).getD 1
  let (lines, _) := (Raw.lines content).foldl (fun (done, n) line =>
    let (line, n) := number line n
    (line :: done, n)) ([], first)
  Raw.unlines lines.reverse

/-- The first lines of inputs next to each other. The number bounds how many lines there are. -/
def besideEachOther (separator : Raw) : Nat → List (List Raw) → List Raw
  | 0, _ => []
  | fuel + 1, columns =>
    if columns.all List.isEmpty then []
    else Raw.join separator (columns.map (·.headD [])) ::
      besideEachOther separator fuel (columns.map List.tail)

/-- Join lines of several inputs, or all lines of each. -/
def paste : Program := withOptions { plain := "sz", valued := "d" } 1 fun program options => do
  let separator := ((options.value? 'd').getD ['\t']).take 1
  let (inputs, failed) ← readInputs program (inputNames options.operands)
  let columns := inputs.map fun (_, content) => Raw.lines content
  let lines := if options.has 's' then columns.map (Raw.join separator)
    else besideEachOther separator ((columns.map List.length).foldl (· + ·) 1) columns
  put program (Raw.unlines lines)
  return codeOf failed

/-- Cut lines that are too long, after the last blank if `atBlanks` says so. The number bounds how
many pieces there are. -/
def foldLine (width : Nat) (atBlanks : Bool) : Nat → Raw → List Raw
  | 0, line => [line]
  | fuel + 1, line =>
    if line.length ≤ width then [line]
    else
      let piece := line.take width
      let words := (piece.reverse.dropWhile (· ≠ ' ')).reverse
      let piece := if atBlanks && !words.isEmpty then words else piece
      piece :: foldLine width atBlanks fuel (line.drop piece.length)

def fold : Program := transforming { plain := "bsc", valued := "w" } fun options content =>
  let width := max 1 (((options.value? 'w').bind Raw.toNat?).getD 80)
  let pieces (line : Raw) : List Raw := foldLine width (options.has 's') line.length line
  let text := Raw.join ['\n'] ((Raw.lines content).flatMap pieces)
  if content.getLast? = some '\n' then text ++ ['\n'] else text

/-- The lines of two sorted inputs in three columns. -/
def merged : Nat → List Raw → List Raw → List (Nat × Raw)
  | 0, _, _ => []
  | _, [], bs => bs.map (1, ·)
  | _, as, [] => as.map (0, ·)
  | fuel + 1, a :: as, b :: bs =>
    if a = b then (2, a) :: merged fuel as bs
    else if a < b then (0, a) :: merged fuel as (b :: bs)
    else (1, b) :: merged fuel (a :: as) bs

def comm : Program := withOptions { plain := "123" } 1 fun program options => do
  match options.operands with
  | [a, b] => match ← readInputs program [a, b] with
    | ([(_, first), (_, second)], false) =>
      let hidden (column : Nat) : Bool := options.has (['1', '2', '3'].getD column '1')
      let line (entry : Nat × Raw) : Option Raw :=
        if hidden entry.1 then none
        else some (((List.range entry.1).filter (!hidden ·)).map (fun _ => '\t') ++ entry.2)
      let (as, bs) := (Raw.lines first, Raw.lines second)
      put program (Raw.unlines ((merged (as.length + bs.length) as bs).filterMap line))
      return 0
    | _ => return 1
  | _ => misused program 1 (Raw.ofString "missing operand")

/-! ## Visible characters -/

/-- A character as something that can be seen. -/
def visible (c : Char) : Raw :=
  let low (n : Nat) : Raw :=
    if n < 32 then ['^', Char.ofNat (n + 64)] else if n = 127 then ['^', '?'] else [Char.ofNat n]
  if c.toNat < 128 then low c.toNat else ['M', '-'] ++ low (c.toNat - 128)

/-- A text with its ends of lines, tabs and other characters shown as the options of `cat` say. -/
def showAll (options : Options) (text : Raw) : Raw :=
  let has (letters : List Char) : Bool := letters.any options.has
  text.flatMap fun c =>
    if c = '\n' then if has ['A', 'E', 'e'] then ['$', '\n'] else [c]
    else if c = '\t' then if has ['A', 'T', 't'] then ['^', 'I'] else [c]
    else if has ['A', 'v', 'e', 't'] then visible c else [c]

/-- Lines with their numbers; `all` says whether empty ones have one. -/
def numbered (all : Bool) : Nat → List Raw → List Raw
  | _, [] => []
  | n, line :: lines =>
    if line.isEmpty && !all then line :: numbered all n lines
    else (padLeft 6 (Raw.ofNat n) ++ '\t' :: line) :: numbered all (n + 1) lines

/-- Lines without empty ones that follow an empty one. -/
def squeezeEmpty : List Raw → List Raw
  | [] :: [] :: lines => squeezeEmpty ([] :: lines)
  | line :: lines => line :: squeezeEmpty lines
  | [] => []

/-- Copy inputs, perhaps with changes. -/
def cat : Program := withOptions
    { plain := "unbAevstET", long := [("number", 'n'), ("show-all", 'A'), ("show-ends", 'E')] } 1
    fun program options => do
  let names := inputNames options.operands
  if options.flags.all (·.1 = 'u') then return codeOf (← copyInputs program names)
  let (inputs, failed) ← readInputs program names
  let content := inputs.flatMap (·.2)
  let ended := content.getLast?.all (· = '\n')
  let lines := Raw.lines content
  let lines := if options.has 's' then squeezeEmpty lines else lines
  let lines := if options.has 'b' then numbered false 1 lines
    else if options.has 'n' then numbered true 1 lines else lines
  let text := if ended then Raw.unlines lines else Raw.join ['\n'] lines
  put program (if options.has 'n' || options.has 'b' then
    -- The tab after a number is not part of the input.
    Raw.join ['\n'] ((Raw.splitOn '\n' text).map fun line =>
      line.take 7 ++ showAll options (line.drop 7))
    else showAll options text)
  return codeOf failed

/-! ## Numbers -/

/-- How `od` shows a group of bytes: how many bytes, how wide, and the text of their values. -/
structure DumpFormat where
  bytes : Nat
  width : Nat
  text : List Nat → Raw

/-- A number in a base with zeros in front. -/
def padded (base width n : Nat) : Raw :=
  let digits := Nat.toDigits base n
  List.replicate (width - digits.length) '0' ++ digits

/-- The number of bytes of which the first one counts least. -/
def littleEndian (bytes : List Nat) : Nat := bytes.foldr (fun b n => b + 256 * n) 0

/-- A byte as a character or an escape. -/
def charCell (n : Nat) : Raw :=
  let letters :=
    [(0, '0'), (7, 'a'), (8, 'b'), (9, 't'), (10, 'n'), (11, 'v'), (12, 'f'), (13, 'r')]
  match letters.lookup n with
  | some letter => ['\\', letter]
  | none => if 32 ≤ n && n < 127 then [Char.ofNat n] else padded 8 3 n

/-- The format with a name, such as `x1`. -/
def DumpFormat.ofName? (name : Raw) : Option DumpFormat :=
  let sized (base perByte : Nat) (size : Nat) (fill : Bool) : DumpFormat :=
    { bytes := size
      width := perByte + 1
      text := fun bytes => if fill then padded base perByte (littleEndian bytes)
        else Nat.toDigits base (littleEndian bytes) }
  match String.ofList name with
  | "c" => some { bytes := 1, width := 4, text := fun bytes => charCell (littleEndian bytes) }
  | "x1" | "xC" => some (sized 16 2 1 true)
  | "x2" | "xS" => some (sized 16 4 2 true)
  | "x" | "x4" | "xI" => some (sized 16 8 4 true)
  | "o1" | "oC" => some (sized 8 3 1 true)
  | "o2" | "oS" => some (sized 8 6 2 true)
  | "u1" | "uC" => some (sized 10 3 1 false)
  | "u2" | "uS" => some (sized 10 5 2 false)
  | _ => none

/-- The bytes of a line of a dump as text. -/
def dumpLine (format : DumpFormat) (line : Raw) : Raw :=
  let groups := piecesOf format.bytes line.length line
  groups.flatMap fun group => padLeft format.width (format.text (group.map Char.toNat))

/-- The lines of a dump; repeated ones are shown as one star unless `all` says not to. -/
def dumpLines (all : Bool) (formats : List DumpFormat) (address : Nat → Raw) :
    Nat → Option Raw → Bool → List Raw → List Raw
  | _, _, _, [] => []
  | offset, before, starred, line :: lines =>
    let next := offset + line.length
    if !all && before = some line && !lines.isEmpty then
      (if starred then [] else [['*']]) ++ dumpLines all formats address next before true lines
    else
      let first := address offset
      let shown := (formats.zipIdx).map fun (format, i) =>
        (if i = 0 then first else List.replicate first.length ' ') ++ dumpLine format line
      shown ++ dumpLines all formats address next (some line) false lines

/-- The names of the formats that options of `od` ask for. -/
def dumpNames (options : Options) : List Raw :=
  options.flags.flatMap fun (flag, value) => match flag with
    | 't' => if value.isEmpty then [] else [value]
    | 'c' => [['c']]
    | 'b' => [['o', '1']]
    | 'x' => [['x', '2']]
    | 'o' => [['o', '2']]
    | _ => []

/-- Show bytes as numbers or characters. -/
def od : Program := withOptions { plain := "cbxov", valued := "AtNjw" } 1 fun program options => do
  let names := if (dumpNames options).isEmpty then [['o', '2']] else dumpNames options
  match names.mapM DumpFormat.ofName? with
  | none => fail program 1 ("invalid type string ".toList ++ quoted (names.headD []))
  | some formats =>
    let (inputs, failed) ← readInputs program (inputNames options.operands)
    let skipped := ((options.value? 'j').bind Raw.toNat?).getD 0
    let content := (inputs.flatMap (·.2)).drop skipped
    let content := match (options.value? 'N').bind Raw.toNat? with
      | some n => content.take n
      | none => content
    let address (n : Nat) : Raw := match options.value? 'A' with
      | some ['n'] => []
      | some ['d'] => padded 10 7 n
      | some ['x'] => padded 16 6 n
      | _ => padded 8 7 n
    let width := max 1 (((options.value? 'w').bind Raw.toNat?).getD 16)
    let lines := dumpLines (options.has 'v') formats address skipped none false
      (piecesOf width content.length content)
    let last := address (skipped + content.length)
    put program (Raw.unlines (lines ++ if last.isEmpty then [] else [last]))
    return codeOf failed

/-! ## Sixty-four letters -/

/-- The letters of the alphabet of 64. -/
def letters64 : Raw :=
  "ABCDEFGHIJKLMNOPQRSTUVWXYZabcdefghijklmnopqrstuvwxyz0123456789+/".toList

/-- Groups of three bytes as groups of four letters. -/
def encode64 : Raw → Raw
  | [] => []
  | a :: rest =>
    let n := a.toNat * 65536 + (rest[0]?.elim 0 Char.toNat) * 256 + (rest[1]?.elim 0 Char.toNat)
    let letter (shift : Nat) : Char := letters64.getD (n / shift % 64) 'A'
    letter 262144 :: letter 4096 ::
      (if rest.isEmpty then '=' else letter 64) ::
      (if rest.length < 2 then '=' else letter 1) :: encode64 (rest.drop 2)
termination_by text => text.length
decreasing_by simp only [List.length_drop, List.length_cons]; omega

/-- Groups of four letters as bytes; none if a letter is not of the alphabet. -/
def decode64? : Raw → Option Raw
  | [] => some []
  | a :: b :: c :: d :: rest => do
    let value (letter : Char) : Option Nat :=
      if letter = '=' then some 0 else letters64.idxOf? letter
    let n := (← value a) * 262144 + (← value b) * 4096 + (← value c) * 64 + (← value d)
    let bytes := [n / 65536, n / 256 % 256, n % 256].map fun n => Format.byte n
    let kept := if c = '=' then 1 else if d = '=' then 2 else 3
    return bytes.take kept ++ (← decode64? rest)
  | _ => none

def base64 : Program := withOptions
    { plain := "di", valued := "w", long := [("decode", 'd'), ("wrap", 'w')] } 1
      fun program options => do
  match ← readInputs program (inputNames (options.operands.take 1)) with
  | (inputs, failed) =>
    let content := inputs.flatMap (·.2)
    if options.has 'd' then
      match decode64? (content.filter (· ≠ '\n')) with
      | some bytes =>
        put program bytes
        return codeOf failed
      | none => fail program 1 (Raw.ofString "invalid input")
    else
      let width := ((options.value? 'w').bind Raw.toNat?).getD 76
      let text := encode64 content
      put program (if width = 0 then text else Raw.unlines (piecesOf width text.length text))
      return codeOf failed

end Stepwise.Machine.Utility
