import Fic.Sudo.DisabledWrapper

/-!
# The authentication grammar

`parseAuthenticationRule` reads a logical entry as far as authentication needs it:
`Defaults` options and the command specifications of a `User_Spec`.  What it does
not understand it refuses.  The source works with positions in one text; the model
cuts the text at those positions and carries the offset of each piece, which is
what the edits name.
-/

namespace Fic.Sudo

open Fic.Lib

/-! ## Scanning -/

def comma : UInt8 := ','.toUInt8

def colon : UInt8 := ':'.toUInt8

def hash : UInt8 := '#'.toUInt8

def quote : UInt8 := '"'.toUInt8

def apostrophe : UInt8 := '\''.toUInt8

def openParen : UInt8 := '('.toUInt8

def closeParen : UInt8 := ')'.toUInt8

def exclamation : UInt8 := '!'.toUInt8

/-- Where `delimiters` stands: inside quotes, behind a backslash, inside a
parenthesis, and the last byte since the start that is no blank. -/
structure QuoteState where
  quoted : Bool := false
  escaped : Bool := false
  depth : Nat := 0
  last : Option UInt8 := none
  deriving DecidableEq, Repr

def QuoteState.see (state : QuoteState) (c : UInt8) : QuoteState :=
  if isSpace c then state else { state with last := some c }

/-- What `delimiters` does with a byte. -/
inductive Scanned where
  | keep (state : QuoteState)
  | cut
  | stop
  | refuse (error : Bytes)
  deriving DecidableEq, Repr

/-- A parenthesis may only open a `Runas_Spec`. -/
def opensRunas (state : QuoteState) : Bool :=
  state.depth = 0 &&
    (state.last = none || state.last = some equalsSign || state.last = some comma)

/-- One byte, with the byte behind it. -/
def scanByte (delimiter : UInt8) (state : QuoteState) (c : UInt8) (next : Option UInt8) : Scanned :=
  if state.escaped then .keep ({ state with escaped := false }.see c)
  else if c = backslash then .keep ({ state with escaped := true }.see c)
  else if c = apostrophe then .refuse (lit "Unsupported single-quote sudoers syntax")
  else if c = quote then .keep ({ state with quoted := !state.quoted }.see c)
  else if state.quoted then .keep (state.see c)
  else if c = hash && !next.any isDigit then .stop
  else if c = openParen then
    if opensRunas state then .keep ({ state with depth := 1 }.see c)
    else .refuse (lit "Unsupported unquoted parenthesis outside leading Runas_Spec")
  else if c = closeParen then
    if state.depth = 0 then .refuse (lit "Unbalanced Runas_Spec")
    else .keep ({ state with depth := state.depth - 1 }.see c)
  else if state.depth = 0 && c = delimiter then .cut
  else .keep (state.see c)

def consPiece (c : UInt8) (cut : List Bytes × Bytes) : List Bytes × Bytes :=
  match cut with
  | ([], rest) => ([[c]], rest)
  | (piece :: pieces, rest) => ((c :: piece) :: pieces, rest)

def unterminated : Bytes := lit "Unterminated sudoers token"

/-- The pieces between the delimiters, and the comment behind them.  Only double
quotes quote. -/
def delimiters (delimiter : UInt8) (state : QuoteState) : Bytes → Except Bytes (List Bytes × Bytes)
  | [] =>
    if state.quoted || state.escaped || state.depth ≠ 0 then .error unterminated
    else .ok ([[]], [])
  | c :: text =>
    match scanByte delimiter state c text.head? with
    | .keep state => (delimiters delimiter state text).map (consPiece c)
    | .cut =>
      (delimiters delimiter (state.see c) text).map fun cut => ([] :: cut.1, cut.2)
    | .stop => if state.depth ≠ 0 then .error unterminated else .ok ([[]], c :: text)
    | .refuse error => .error error

/-! ## Rules -/

inductive AuthenticationStatement where
  | Comment
  | Include
  | Alias
  | Defaults
  | UserSpec
  deriving DecidableEq, Repr

structure AuthenticationCommand where
  runas : Bytes
  tags : List Bytes
  commandAndArguments : Bytes
  passwordRequired : Bool := true
  deriving DecidableEq, Repr

structure AuthenticationRule where
  kind : AuthenticationStatement := .Comment
  users : Bytes := []
  hosts : Bytes := []
  scopedDefaults : Bool := false
  commands : List AuthenticationCommand := []
  edits : List SudoTokenReplacement := []
  deriving DecidableEq, Repr

def knownTags : List Bytes :=
  [lit "NOPASSWD", lit "PASSWD", lit "NOEXEC", lit "EXEC", lit "INTERCEPT", lit "NOINTERCEPT",
    lit "SETENV", lit "NOSETENV", lit "LOG_INPUT", lit "NOLOG_INPUT", lit "LOG_OUTPUT",
    lit "NOLOG_OUTPUT", lit "FOLLOW", lit "NOFOLLOW", lit "MAIL", lit "NOMAIL"]

def knownOptions : List Bytes :=
  [lit "CWD", lit "CHROOT", lit "TIMEOUT", lit "NOTBEFORE", lit "NOTAFTER", lit "ROLE", lit "TYPE",
    lit "APPARMOR_PROFILE", lit "PRIVS", lit "LIMITPRIVS"]

def skipBlanks (text : Bytes) : Bytes := text.dropWhile isSpace

/-- The word at the start of the text, followed by a blank. -/
def startsWithWord (word text : Bytes) : Bool :=
  word <+: text && ((text.drop word.length).head?).any isSpace

/-! ## `Defaults` -/

def isScopeCharacter (c : UInt8) : Bool := (lit ":@>!").contains c

/-- The scope character of a `Defaults` entry. -/
def scopedDefaultsScope (logicalLine : Bytes) : Bytes :=
  let trimmed := skipBlanks logicalLine
  if trimmed.head? = some hash then []
  else if lit "Defaults" <+: trimmed then
    match trimmed.drop 8 with
    | scope :: _ => if isScopeCharacter scope then [scope] else []
    | [] => []
  else []

/-- The target of the scope: up to a blank that is neither quoted nor escaped. -/
def scopeTarget (quoted escaped : Bool) : Bytes → Bytes
  | [] => []
  | c :: text =>
    if escaped then c :: scopeTarget quoted false text
    else if c = backslash then c :: scopeTarget quoted true text
    else
      let quoted := if c = quote then !quoted else quoted
      if !quoted && isSpace c then [] else c :: scopeTarget quoted false text

def noAuthenticate : Bytes := lit "!authenticate"

def authenticate : Bytes := lit "authenticate"

/-- The edit of one option. -/
def readOption (offset : Nat) (piece : Bytes) : Except Bytes (List SudoTokenReplacement) :=
  let option := trimLogicalCopy piece
  if option = noAuthenticate then
    .ok [{ logicalOffset := offset + trimStart piece, expected := option
           replacement := authenticate }]
  else if Bytes.hasWord authenticate option && option ≠ authenticate &&
    !option.contains equalsSign then
    .error (lit "Ambiguous authenticate Defaults option")
  else .ok []

def readOptions (offset : Nat) : List Bytes → Except Bytes (List SudoTokenReplacement)
  | [] => .ok []
  | piece :: pieces => do
    let edits ← readOption offset piece
    let rest ← readOptions (offset + piece.length + 1) pieces
    .ok (edits ++ rest)

/-- `text` is what stands behind the word `Defaults`. -/
def parseDefaults (offset : Nat) (scopedDefaults : Bool) (text : Bytes) :
    Except Bytes AuthenticationRule := do
  let scope := if scopedDefaults then (scopeTarget false false (text.drop 1)).length + 1 else 0
  let rest := text.drop scope
  let (pieces, _) ← delimiters comma {} (skipBlanks rest)
  let edits ← readOptions (offset + scope + trimStart rest) pieces
  .ok { kind := .Defaults, scopedDefaults, edits }

/-! ## `User_Spec` -/

def isNameByte (c : UInt8) : Bool := isAlnum c || c = '_'.toUInt8

def noPasswd : Bytes := lit "NOPASSWD"

def passwd : Bytes := lit "PASSWD"

structure Attributes where
  tags : List Bytes := []
  edits : List SudoTokenReplacement := []
  passwordRequired : Bool
  rest : Bytes
  deriving DecidableEq, Repr

/-- What is left behind the value of an option. -/
def skipQuoted (escaped : Bool) : Bytes → Option Bytes
  | [] => none
  | c :: text =>
    if escaped then skipQuoted false text
    else if c = backslash then skipQuoted true text
    else if c = quote then some text
    else skipQuoted false text

def skipOptionValue (value : Bytes) : Except Bytes Bytes :=
  match value with
  | [] => .error (lit "Missing command option value")
  | c :: text =>
    if c = quote then
      match skipQuoted false text with
      | none => .error (lit "Unterminated command option value")
      | some rest => .ok (skipBlanks rest)
    else .ok (skipBlanks (value.dropWhile fun c => !isSpace c))

/-- Reads tags and options; every turn takes a name, so the length of the text is
fuel enough. -/
def readAttributes : Nat → Nat → Bool → Bytes → Except Bytes Attributes
  | 0, _, passwordRequired, text => .ok { passwordRequired, rest := text }
  | fuel + 1, offset, passwordRequired, text =>
    let name := text.takeWhile isNameByte
    match skipBlanks (text.dropWhile isNameByte) with
    | [] => .ok { passwordRequired, rest := text }
    | c :: value =>
      if c = colon && !name.isEmpty then
        if name ∉ knownTags then .error (lit "Unsupported command tag or digest: " ++ name)
        else do
          let required := if name = noPasswd then false
            else if name = passwd then true else passwordRequired
          let rest := skipBlanks value
          let more ← readAttributes fuel (offset + (text.length - rest.length)) required rest
          .ok { more with
            tags := name :: more.tags
            edits := (if name = noPasswd then
                [{ logicalOffset := offset, expected := name, replacement := passwd }] else []) ++
              more.edits }
      else if c = equalsSign && !name.isEmpty then
        if name ∉ knownOptions then .error (lit "Unsupported command option: " ++ name)
        else do
          let rest ← skipOptionValue (skipBlanks value)
          readAttributes fuel (offset + (text.length - rest.length)) passwordRequired rest
      else .ok { passwordRequired, rest := text }

/-- The `Runas_Spec` at the start of a piece, or the inherited one. -/
def readRunas (inherited piece : Bytes) : Except Bytes (Bytes × Bytes) :=
  match piece with
  | [] => .ok (inherited, piece)
  | c :: text =>
    if c ≠ openParen then .ok (inherited, piece)
    else
      let inner := text.takeWhile (· ≠ closeParen)
      if closeParen ∉ text ∨ openParen ∈ inner then .error (lit "Unsupported nested Runas_Spec")
      else .ok (c :: inner ++ [closeParen], skipBlanks (text.drop (inner.length + 1)))

def isCommandNameByte (c : UInt8) : Bool := (65 ≤ c && c ≤ 90) || isDigit c || c = '_'.toUInt8

/-- The command without a leading exclamation mark. -/
def plainCommand (command : Bytes) : Bytes :=
  if command.head? = some exclamation then command.drop 1 else command

def checkCommand (command : Bytes) : Except Bytes Unit :=
  let cmd := plainCommand command
  if cmd.isEmpty then .error (lit "Empty Cmnd_Spec")
  else
    match delimiters colon {} cmd with
    | .error error => .error error
    | .ok (pieces, _) =>
      if pieces.length ≠ 1 then .error (lit "Unsupported additional Host_Spec or command colon")
      else if cmd.head? ≠ some '/'.toUInt8 && cmd ≠ lit "ALL" && !(lit "sudoedit" <+: cmd) &&
          !cmd.all isCommandNameByte then
        .error (lit "Unsupported command path or alias")
      else .ok ()

structure Inherited where
  runas : Bytes := []
  passwordRequired : Bool := true
  deriving DecidableEq, Repr

def readCommand (offset : Nat) (inherited : Inherited) (piece : Bytes) :
    Except Bytes (AuthenticationCommand × List SudoTokenReplacement × Inherited) := do
  let start := skipBlanks piece
  let (runas, text) ← readRunas inherited.runas start
  let attributes ← readAttributes (text.length + 1) (offset + (piece.length - text.length))
    inherited.passwordRequired text
  let commandAndArguments := trimLogicalCopy attributes.rest
  checkCommand commandAndArguments
  .ok ({ runas, tags := attributes.tags, commandAndArguments
         passwordRequired := attributes.passwordRequired },
    attributes.edits, { runas, passwordRequired := attributes.passwordRequired })

def readCommands (offset : Nat) (inherited : Inherited) :
    List Bytes → Except Bytes (List AuthenticationCommand × List SudoTokenReplacement)
  | [] => .ok ([], [])
  | piece :: pieces => do
    let (command, edits, inherited) ← readCommand offset inherited piece
    let (commands, rest) ← readCommands (offset + piece.length + 1) inherited pieces
    .ok (command :: commands, edits ++ rest)

def isTabOrBlank (c : UInt8) : Bool := c = blank || c = 9

/-- The users and the hosts in front of the equals sign. -/
def readHead (head : Bytes) : Except Bytes (Bytes × Bytes) :=
  if !head.any isTabOrBlank then .error (lit "Missing User_List or Host_List")
  else
    let users := head.takeWhile fun c => !isTabOrBlank c
    let hosts := trimLogicalCopy (head.dropWhile fun c => !isTabOrBlank c)
    if users.getLast? = some comma || hosts.isEmpty || hosts.any isTabOrBlank then
      .error (lit "Unsupported ambiguous User_List/Host_List whitespace")
    else .ok (users, hosts)

def parseUserSpec (offset : Nat) (text : Bytes) : Except Bytes AuthenticationRule := do
  let (pieces, _) ← delimiters equalsSign {} text
  match pieces with
  | head :: _ :: _ =>
    let (users, hosts) ← readHead (trimLogicalCopy head)
    let (specs, _) ← delimiters comma {} (text.drop (head.length + 1))
    let (commands, edits) ← readCommands (offset + head.length + 1) {} specs
    .ok { kind := .UserSpec, users, hosts, commands, edits }
  | _ => .error (lit "Unsupported User_Spec without Host_Spec")

/-! ## One entry -/

def includeDirectives : List Bytes :=
  [lit "@include", lit "@includedir", lit "#include", lit "#includedir"]

def aliasWords : List Bytes :=
  [lit "User_Alias", lit "Host_Alias", lit "Runas_Alias", lit "Cmnd_Alias"]

/-- A comment is a hash that does not start a numeric id. -/
def startsComment (text : Bytes) : Bool :=
  text.head? = some hash && !((text.drop 1).head?).any isDigit

def startsDefaults (text : Bytes) : Bool :=
  lit "Defaults" <+: text &&
    match text.drop 8 with
    | [] => true
    | c :: _ => isSpace c || isScopeCharacter c

def parseAuthenticationRule (text : Bytes) : Except Bytes AuthenticationRule :=
  let rest := skipBlanks text
  let offset := trimStart text
  if rest.isEmpty then .ok {}
  else if includeDirectives.any (startsWithWord · rest) then .ok { kind := .Include }
  else if startsComment rest then .ok {}
  else if aliasWords.any (startsWithWord · rest) then .ok { kind := .Alias }
  else if startsDefaults rest then
    parseDefaults (offset + 8) (!(scopedDefaultsScope text).isEmpty) (rest.drop 8)
  else parseUserSpec offset rest

/-- The entry with every edit made, and whether it is a scoped `Defaults`. -/
def authenticationReplacement (original : Bytes) : Except Bytes (Bytes × Bool) :=
  let lines := splitPhysicalLines original
  match assembleSudoLogicalEntries lines with
  | [entry] => do
    let rule ← parseAuthenticationRule entry.text
    if rule.edits.isEmpty then
      .error (lit "Authentication wrapper has no authentication mutation")
    else do
      let updated ← replaceSudoLogicalTokens entry rule.edits lines
      .ok (joinPhysicalLines updated, rule.scopedDefaults)
  | _ => .error (lit "Authentication wrapper must contain one logical entry")

end Fic.Sudo
