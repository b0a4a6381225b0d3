import Stepwise.Machine.Condition
import Stepwise.Machine.Utility.Basic

/-!
# Programs that work on files

Programs that list, make, move and remove files, and those that take paths apart.
-/

namespace Stepwise.Machine.Utility

/-- Do something for each operand; the flag tells whether something failed. -/
def forEach (operands : List Raw) (act : Raw → Task Bool) : Task Bool :=
  operands.foldlM (fun failed operand => return (← act operand) || failed) false

/-- Change the files for an operand, or complain. -/
def changing (program : Start) (what : String) (operand : Raw)
    (change : FileTree → Path → Except SystemFault FileTree) : Task Bool := do
  match ← Task.changeFiles change with
  | .ok () => return false
  | .error e =>
    complain program (Raw.ofString what ++ quoted operand ++ ": ".toList ++ faultWords e)
    return true

/-- The entry that an operand means. -/
def entryOf (operand : Raw) : Task (Except SystemFault Entry) :=
  Task.files fun tree directory => tree.find directory operand.toBytes

/-- Whether an operand means a directory. -/
def isDirectory (operand : Raw) : Task Bool :=
  Task.files fun tree directory => match tree.find directory operand.toBytes with
    | .ok .directory => true
    | _ => false

/-! ## Paths -/

/-- The text of the working directory. -/
def currentDirectory : Task Raw := do
  return Raw.ofBytes (FileTree.pathText (← Task.directory))

def pwd : Program := fun program => do
  put program ((← currentDirectory) ++ ['\n'])
  return 0

/-- A path without slashes at its end. -/
def withoutSlashes (path : Raw) : Raw :=
  let bare := (path.reverse.dropWhile (· = '/')).reverse
  if bare.isEmpty && !path.isEmpty then ['/'] else bare

/-- The last name of a path. -/
def lastName (path : Raw) : Raw :=
  let bare := withoutSlashes path
  if bare = ['/'] then bare else (bare.reverse.takeWhile (· ≠ '/')).reverse

/-- A path without its last name. -/
def parentOf (path : Raw) : Raw :=
  let bare := withoutSlashes path
  if bare = ['/'] then bare
  else match bare.reverse.dropWhile (· ≠ '/') with
    | [] => ['.']
    | front => withoutSlashes front.reverse

def basename : Program := withOptions { plain := "az", valued := "s" } 1 fun program options => do
  let strip (suffix name : Raw) : Raw :=
    if suffix.isSuffixOf name && suffix ≠ name then name.take (name.length - suffix.length)
    else name
  let several := options.has 'a' || options.has 's'
  match options.operands with
  | [] => misused program 1 (Raw.ofString "missing operand")
  | paths =>
    let suffix := match options.value? 's', paths with
      | some s, _ => s
      | none, [_, s] => if several then [] else s
      | none, _ => []
    let paths := if several then paths else paths.take 1
    put program (Raw.unlines (paths.map fun path => strip suffix (lastName path)))
    return 0

def dirname : Program := withOptions { plain := "z" } 1 fun program options => do
  if options.operands.isEmpty then misused program 1 (Raw.ofString "missing operand")
  else
    put program (Raw.unlines (options.operands.map parentOf))
    return 0

def realpath : Program := withOptions { plain := "efms" } 1 fun program options => do
  let failed ← forEach options.operands fun operand => do
    match ← Task.files fun tree directory => tree.resolve directory operand.toBytes with
    | .ok path =>
      put program (Raw.ofBytes (FileTree.pathText path) ++ ['\n'])
      return false
    | .error e =>
      complain program (operand ++ ": ".toList ++ faultWords e)
      return true
  return codeOf failed

/-! ## Listing -/

/-- The names in a directory that `ls` shows. -/
def shownNames (options : Options) (names : List Bytes) : List Raw :=
  let names := names.map Raw.ofBytes
  let hidden (name : Raw) : Bool := name.head? = some '.'
  let names := if options.has 'a' then [['.'], ['.', '.']] ++ names
    else if options.has 'A' then names else names.filter fun name => !hidden name
  if options.has 'r' then names.reverse else names

/-- The names in the directory that an operand means; none if it means something else. -/
def namesAt (tree : FileTree) (directory : Path) (operand : Raw) :
    Except SystemFault (Option (List Bytes)) := do
  let path ← tree.resolve directory operand.toBytes
  match tree.entryAt? path with
  | some .directory => return some (tree.names path)
  | some _ => return none
  | none => throw .notFound

/-- The paths at and below a path, parents first. -/
def below (tree : FileTree) (path : Path) : List Path :=
  let inside := (tree.entries.map (·.1)).filter fun p => path.isPrefixOf p && p ≠ path
  path :: inside.mergeSort fun a b => !(b < a)

/-- The mark that `ls` puts behind a name. -/
def markOf (options : Options) (tree : FileTree) (entry : Option Entry) : Raw :=
  match entry with
  | some .directory => if options.has 'F' || options.has 'p' then ['/'] else []
  | some (.file n) => if options.has 'F' && (tree.file n).executable then ['*'] else []
  | some (.program _) => if options.has 'F' then ['*'] else []
  | _ => []

/-- The directories that `ls` lists for an operand: it, and with `-R` those below it. -/
def listedDirectories (options : Options) (tree : FileTree) (directory : Path) (operand : Raw) :
    List (Raw × Path) :=
  match tree.resolve directory operand.toBytes with
  | .error _ => []
  | .ok path =>
    if !options.has 'R' then [(operand, path)]
    else (below tree path).filterMap fun p =>
      if tree.isDirectory p then
        let inside := (p.drop path.length).flatMap fun name => '/' :: Raw.ofBytes name
        some ((if inside.isEmpty then operand else withoutSlashes operand) ++ inside, p)
      else none

def ls : Program := withOptions { plain := "1aArdFCtRUkpqh" } 2 fun program options => do
  let operands := (if options.operands.isEmpty then [['.']] else options.operands).mergeSort Raw.le
  let found ← operands.filterMapM fun operand => do
    match ← Task.files fun tree directory => namesAt tree directory operand with
    | .ok names => return some (operand, if options.has 'd' then none else names)
    | .error e =>
      complain program ("cannot access ".toList ++ quoted operand ++ ": ".toList ++ faultWords e)
      return none
  let single := (found.filter (·.2.isNone)).map (·.1)
  let named := 1 < operands.length || options.has 'R'
  let (singles, listings) ← Task.files fun tree directory =>
    let mark (path : Path) : Raw := markOf options tree (tree.entryAt? path)
    let marked (operand : Raw) : Raw := match tree.resolve directory operand.toBytes with
      | .ok path => operand ++ mark path
      | .error _ => operand
    let listing (title : Raw) (path : Path) : Raw :=
      (if named then title ++ [':', '\n'] else []) ++
        Raw.unlines ((shownNames options (tree.names path)).map fun name =>
          name ++ mark (path ++ [name.toBytes]))
    (single.map marked, (found.filter (·.2.isSome)).flatMap fun (operand, _) =>
      (listedDirectories options tree directory operand).map fun (title, path) =>
        listing title path)
  put program (Raw.unlines singles)
  if !single.isEmpty && !listings.isEmpty then put program ['\n']
  put program (Raw.join ['\n'] listings)
  return if found.length < operands.length then 2 else 0

/-! ## Making and removing -/

/-- Make a directory in a directory unless it is there. -/
def enterDirectory (place : FileTree × Path) (name : Bytes) :
    Except SystemFault (FileTree × Path) := do
  let path ← place.1.walk place.2 [name]
  match place.1.entryAt? path with
  | some .directory => return (place.1, path)
  | some _ => throw .exists
  | none => return (← place.1.makeDirectory path, path)

/-- Make a directory, and those on the way to it if `parents` says so. -/
def makeAt (parents : Bool) (operand : Raw) (tree : FileTree) (directory : Path) :
    Except SystemFault FileTree :=
  if parents then
    let start := if operand.head? = some '/' then [] else directory
    let names := FileTree.splitAt FileTree.slash operand.toBytes
    (names.foldlM enterDirectory (tree, start)).map (·.1)
  else do tree.makeDirectory (← tree.resolve directory (withoutSlashes operand).toBytes)

def mkdir : Program := withOptions { plain := "pv", valued := "m", long := [("parents", 'p')] } 1
    fun program options => do
  if options.operands.isEmpty then return ← misused program 1 (Raw.ofString "missing operand")
  let failed ← forEach options.operands fun operand =>
    changing program "cannot create directory " operand (makeAt (options.has 'p') operand)
  return codeOf failed

def rmdir : Program := withOptions { plain := "pv" } 1 fun program options => do
  let failed ← forEach options.operands fun operand =>
    changing program "failed to remove " operand fun tree directory => do
      let path ← tree.resolve directory operand.toBytes
      match tree.entryAt? path with
      | none => throw .notFound
      | some .directory =>
        if (tree.names path).isEmpty then return tree.remove path else throw .notEmpty
      | some _ => throw .notDirectory
  return codeOf failed

/-- Remove what an operand means: a directory only if `recursive` says so. -/
def removeAt (recursive : Bool) (operand : Raw) (tree : FileTree) (directory : Path) :
    Except SystemFault FileTree := do
  let path ← tree.resolve directory operand.toBytes
  match tree.entryAt? path with
  | none => throw .notFound
  | some .directory => if recursive then return tree.removeAll path else throw .isDirectory
  | some _ => return tree.remove path

def rm : Program := withOptions
    { plain := "rRfvid", long := [("recursive", 'r'), ("force", 'f')] } 1 fun program options => do
  let recursive := options.has 'r' || options.has 'R'
  if options.operands.isEmpty && !options.has 'f' then
    return ← misused program 1 (Raw.ofString "missing operand")
  let failed ← forEach options.operands fun operand =>
    changing program "cannot remove " operand fun tree directory =>
      match removeAt recursive operand tree directory with
      | .error .notFound => if options.has 'f' then .ok tree else .error .notFound
      | result => result
  return codeOf failed

def touch : Program := withOptions { plain := "acmf", valued := "dtr" } 1 fun program options => do
  let failed ← forEach options.operands fun operand =>
    changing program "cannot touch " operand fun tree directory => do
      let path ← tree.resolve directory operand.toBytes
      if (tree.entryAt? path).isSome || options.has 'c' then return tree
      tree.checkParent path
      return (tree.addFile path []).1
  return codeOf failed

/-! ## Copying and moving -/

/-- Do something for each source and its target: the last operand, or a place in it if it is a
directory. -/
def toTarget (program : Start) (operands : List Raw) (act : Raw → Raw → Task Bool) : Task Nat := do
  match operands with
  | [] => misused program 1 (Raw.ofString "missing file operand")
  | [source] =>
    misused program 1 (Raw.ofString "missing destination file operand after " ++ quoted source)
  | _ =>
    let target := operands.getLastD []
    let sources := operands.dropLast
    if ← isDirectory target then
      return codeOf (← forEach sources fun source =>
        act source (withoutSlashes target ++ '/' :: lastName source))
    else match sources with
      | [source] => return codeOf (← act source target)
      | _ => fail program 1 ("target ".toList ++ quoted target ++ ": ".toList ++
        faultWords .notDirectory)

/-- A tree with a copy of what is at one path at another. -/
def copyTree (tree : FileTree) (source target : Path) : Except SystemFault FileTree :=
  (below tree source).foldlM (fun new path =>
    let place := target ++ path.drop source.length
    match tree.entryAt? path with
    | some .directory => if new.isDirectory place then .ok new else new.makeDirectory place
    | some (.file n) => do
      new.checkParent place
      let file := tree.file n
      match new.entryAt? place with
      | some (.file m) => return new.modifyFile m fun f => { f with content := file.content }
      | _ =>
        let (new, m) := new.addFile place file.content
        return new.modifyFile m fun f => { f with executable := file.executable }
    | some entry => .ok (new.place place entry)
    | none => .ok new) tree

def cp : Program := withOptions { plain := "rRafpvTLPd", long := [("recursive", 'r')] } 1
    fun program options =>
  toTarget program options.operands fun source target => do
    match ← entryOf source with
    | .error e =>
      complain program ("cannot stat ".toList ++ quoted source ++ ": ".toList ++ faultWords e)
      return true
    | .ok .directory =>
      if options.has 'r' || options.has 'R' || options.has 'a' then
        changing program "cannot create directory " target fun tree directory => do
          copyTree tree (← tree.resolve directory source.toBytes)
            (← tree.resolve directory target.toBytes)
      else
        complain program ("-r not specified; omitting directory ".toList ++ quoted source)
        return true
    | .ok (.device _) =>
      changing program "cannot create regular file " target fun tree directory => do
        let path ← tree.resolve directory target.toBytes
        tree.checkParent path
        return (tree.addFile path []).1
    | .ok _ =>
      changing program "cannot create regular file " target fun tree directory => do
        copyTree tree (← tree.resolve directory source.toBytes)
          (← tree.resolve directory target.toBytes)

def mv : Program := withOptions { plain := "fvnT" } 1 fun program options =>
  toTarget program options.operands fun source target => do
    match ← entryOf source with
    | .error e =>
      complain program ("cannot stat ".toList ++ quoted source ++ ": ".toList ++ faultWords e)
      return true
    | .ok _ =>
      changing program "cannot move to " target fun tree directory => do
        let path ← tree.resolve directory target.toBytes
        tree.checkParent path
        return tree.move (← tree.resolve directory source.toBytes) path

/-- Whether a mode lets a file be executed, given whether it could be before. -/
def executableBy (mode : Raw) (before : Bool) : Bool :=
  match Raw.toNat? mode with
  | some _ => mode.any fun c => c ∈ ['1', '3', '5', '7']
  | none =>
    if !mode.contains 'x' then before
    else mode.contains '+' || mode.contains '='

def chmod : Program := withOptions { plain := "Rvfc", mixed := false } 1 fun program options => do
  match options.operands with
  | mode :: operands =>
    let failed ← forEach operands fun operand =>
      changing program "cannot access " operand fun tree directory => do
        match ← tree.find directory operand.toBytes with
        | .file n => return tree.modifyFile n fun f =>
          { f with executable := executableBy mode f.executable }
        | _ => return tree
    return codeOf failed
  | [] => misused program 1 (Raw.ofString "missing operand")

/-- Give a file a second name. -/
def ln : Program := withOptions { plain := "fvn" } 1 fun program options =>
  toTarget program options.operands fun source target =>
    changing program "failed to create hard link " target fun tree directory => do
      let path ← tree.resolve directory target.toBytes
      tree.checkParent path
      if (tree.entryAt? path).isSome && !options.has 'f' then throw .exists
      return tree.place path (← tree.find directory source.toBytes)

/-- Make files shorter or longer. -/
def truncate : Program := withOptions { plain := "c", valued := "s", long := [("size", 's')] } 1
    fun program options => do
  match (options.value? 's').bind Raw.toNat? with
  | none => misused program 1 (Raw.ofString "you must specify either '--size' or '--reference'")
  | some size =>
    let failed ← forEach options.operands fun operand =>
      changing program "cannot open " operand fun tree directory => do
        let path ← tree.resolve directory operand.toBytes
        let fit (content : Bytes) : Bytes :=
          content.take size ++ List.replicate (size - content.length) 0
        match tree.entryAt? path with
        | some (.file n) => return tree.modifyFile n fun f => { f with content := fit f.content }
        | some .directory => throw .isDirectory
        | some _ => return tree
        | none =>
          tree.checkParent path
          return if options.has 'c' then tree else (tree.addFile path (fit [])).1
    return codeOf failed

/-- The name of a new file: a number makes it different from all others. -/
def temporaryName (number : Nat) : Raw :=
  let digits := Raw.ofNat number
  Raw.ofString "tmp." ++ List.replicate (10 - digits.length) '0' ++ digits

/-- Make a new file or directory for some time. -/
def mktemp : Program := withOptions { plain := "dqtu", valued := "p" } 1 fun program options => do
  let parent := (options.value? 'p').getD "/tmp".toList
  let made ← Task.attempt fun process k => do
    let name := parent ++ '/' :: temporaryName k.tree.nextNumber
    let path ← k.tree.resolve (k.directoryOf process) name.toBytes
    k.tree.checkParent path
    let (tree, number) := k.tree.addFile path []
    return ({ k with tree := if options.has 'd' then tree.place path .directory
      else tree.place path (.file number) }, name)
  match made with
  | .ok name =>
    put program (name ++ ['\n'])
    return 0
  | .error e =>
    fail program 1 (Raw.ofString "failed to create file: " ++ faultWords e)

/-- Whether a name matches a pattern of stars and question marks. The number bounds their
lengths. -/
def matchesName : Nat → Raw → Raw → Bool
  | 0, _, _ => false
  | _, [], name => name.isEmpty
  | fuel + 1, '*' :: pattern, name =>
    matchesName fuel pattern name || match name with
      | [] => false
      | _ :: rest => matchesName fuel ('*' :: pattern) rest
  | fuel + 1, '?' :: pattern, _ :: rest => matchesName fuel pattern rest
  | fuel + 1, c :: pattern, d :: rest => c = d && matchesName fuel pattern rest
  | _, _, [] => false

/-- The tests of `find` among its arguments. -/
def findTests : List Raw → Except Raw (List (Nat → Raw → Entry → Bool))
  | [] => .ok []
  | word :: value :: rest =>
    let test : Option (Nat → Raw → Entry → Bool) := match String.ofList word, Raw.toNat? value with
      | "-name", _ => some fun _ name _ => matchesName (value.length + name.length + 2) value name
      | "-type", _ => some fun _ _ entry => match entry with
        | .directory => value = ['d']
        | .file _ | .program _ => value = ['f']
        | .device _ => value = ['c']
      | "-maxdepth", some n => some fun depth _ _ => depth ≤ n
      | "-mindepth", some n => some fun depth _ _ => n ≤ depth
      | _, _ => none
    match test with
    | some test => (findTests rest).map (test :: ·)
    | none => if word = "-print".toList then findTests (value :: rest) else .error word
  | [word] => if word = "-print".toList then .ok [] else .error word

/-- List what is at and below some places. -/
def find : Program := fun program => do
  let places := program.arguments.takeWhile fun word => word.head? ≠ some '-'
  match findTests (program.arguments.drop places.length) with
  | .error word => fail program 1 (Raw.ofString "unknown predicate " ++ '\x60' :: word ++ ['\''])
  | .ok tests =>
    let failed ← forEach (if places.isEmpty then [['.']] else places) fun place => do
      let found ← Task.files fun tree directory => do
        let path ← tree.resolve directory place.toBytes
        if (tree.entryAt? path).isNone then throw .notFound
        return (below tree path).filterMap fun p => do
          let entry ← tree.entryAt? p
          let inside := (p.drop path.length).map Raw.ofBytes
          let name := inside.getLastD (lastName place)
          if tests.all fun test => test inside.length name entry then
            some (inside.foldl (fun text name => withoutSlashes text ++ '/' :: name) place)
          else none
      match (found : Except SystemFault (List Raw)) with
      | .ok paths =>
        put program (Raw.unlines paths)
        return false
      | .error e =>
        complain program (quoted place ++ ": ".toList ++ faultWords e)
        return true
    return codeOf failed

/-- Where two texts first differ: the number of the byte and of its line. -/
def firstDifference : Nat → Nat → Raw → Raw → Option (Nat × Nat)
  | byte, line, a :: as, b :: bs =>
    if a ≠ b then some (byte, line)
    else firstDifference (byte + 1) (if a = '\n' then line + 1 else line) as bs
  | _, _, _, _ => none

/-- Compare two files byte by byte. -/
def cmp : Program := withOptions { plain := "sl" } 2 fun program options => do
  match options.operands with
  | [a, b] => match ← readInputs program [a, b] with
    | ([(_, first), (_, second)], false) =>
      let say (text : Raw) : Task Unit := if options.has 's' then pure () else put program text
      if first = second then return 0
      match firstDifference 1 1 first second with
      | some (byte, line) =>
        say (words [a, [' '], b, " differ: char ".toList, Raw.ofNat byte, ", line ".toList,
          Raw.ofNat line, ['\n']])
      | none =>
        let (shorter, text) := if first.length < second.length then (a, first) else (b, second)
        if !options.has 's' then
          complain program (if text.isEmpty then
              "EOF on ".toList ++ quoted shorter ++ " which is empty".toList
            else words ["EOF on ".toList, quoted shorter, " after byte ".toList,
              Raw.ofNat text.length, ", line ".toList, Raw.ofNat (text.count '\n')])
      return 1
    | _ => return 2
  | _ => misused program 2 (Raw.ofString "missing operand")

/-! ## Conditions and sums -/

/-- Evaluate a condition. -/
def test : Program := fun program => do
  let place ← Task.files fun tree directory =>
    ({ tree, directory } : Condition.Place)
  let bracket := lastName program.name = ['[']
  if bracket && program.arguments.getLast? ≠ some [']'] then
    return ← fail program 2 (Raw.ofString "missing ']'")
  let words := if bracket then program.arguments.dropLast else program.arguments
  match Condition.holds place words with
  | .ok holds => return if holds then 0 else 1
  | .error fault => fail program 2 fault.message

/-- The levels of operators of `expr`, from the loosest to the tightest. -/
def exprLevels : List (List Raw) :=
  [["|".toList], ["&".toList],
    ["<".toList, "<=".toList, "=".toList, "==".toList, "!=".toList, ">=".toList, ">".toList],
    ["+".toList, "-".toList], ["*".toList, "/".toList, "%".toList]]

/-- Whether a word counts as true. -/
def isTruthy (word : Raw) : Bool := !word.isEmpty && Raw.toInt? word ≠ some 0

/-- The result of an operator of `expr`. -/
def exprApply (operator a b : Raw) : Except String Raw :=
  let compared (check : Ordering → Bool) : Except String Raw :=
    let order := match Raw.toInt? a, Raw.toInt? b with
      | some m, some n => compare m n
      | _, _ => if a = b then .eq else if a < b then .lt else .gt
    .ok (if check order then ['1'] else ['0'])
  let numbers (f : Int → Int → Except String Int) : Except String Raw :=
    match Raw.toInt? a, Raw.toInt? b with
    | some m, some n => (f m n).map Raw.ofInt
    | _, _ => .error "non-integer argument"
  match String.ofList operator with
  | "|" => .ok (if isTruthy a then a else if isTruthy b then b else ['0'])
  | "&" => .ok (if isTruthy a && isTruthy b then a else ['0'])
  | "<" => compared (· = .lt)
  | "<=" => compared (· ≠ .gt)
  | "=" | "==" => compared (· = .eq)
  | "!=" => compared (· ≠ .eq)
  | ">=" => compared (· ≠ .lt)
  | ">" => compared (· = .gt)
  | "+" => numbers fun m n => .ok (m + n)
  | "-" => numbers fun m n => .ok (m - n)
  | "*" => numbers fun m n => .ok (m * n)
  | "/" => numbers fun m n => if n = 0 then .error "division by zero" else .ok (m.tdiv n)
  | "%" => numbers fun m n => if n = 0 then .error "division by zero" else .ok (m.tmod n)
  | _ => .error "syntax error"

/-- Evaluate words by the levels that are left, or go on with an operator after a value. -/
def exprRead : Nat → Option Raw → List (List Raw) → List Raw → Except String (Raw × List Raw)
  | 0, _, _, _ => .error "syntax error"
  | fuel + 1, none, [], words => match words with
    | ['('] :: rest => do
      let (value, rest) ← exprRead fuel none exprLevels rest
      match rest with
      | [')'] :: rest => return (value, rest)
      | _ => throw "syntax error"
    | word :: rest =>
      if word = "length".toList then
        match rest with
        | text :: rest => .ok (Raw.ofNat text.length, rest)
        | [] => .error "syntax error"
      else .ok (word, rest)
    | [] => .error "syntax error"
  | fuel + 1, none, level :: levels, words => do
    let (value, rest) ← exprRead fuel none levels words
    exprRead fuel (some value) (level :: levels) rest
  | _, some value, [], words => .ok (value, words)
  | fuel + 1, some value, level :: levels, words => match words with
    | operator :: rest =>
      if level.contains operator then do
        let (other, rest) ← exprRead fuel none levels rest
        exprRead fuel (some (← exprApply operator value other)) (level :: levels) rest
      else .ok (value, operator :: rest)
    | [] => .ok (value, [])

def expr : Program := fun program => do
  match exprRead (16 * program.arguments.length + 16) none exprLevels program.arguments with
  | .ok (value, []) =>
    put program (value ++ ['\n'])
    return if isTruthy value then 0 else 1
  | .ok _ => fail program 2 (Raw.ofString "syntax error")
  | .error message => fail program 2 (Raw.ofString message)

end Stepwise.Machine.Utility
