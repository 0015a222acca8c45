import Sysal.Foundation.ByteString

/-!
# Words of a shell command line

Token recognition and quoting of the shell command language, byte by byte.  A letter of a word
remembers whether it was quoted.  Where an expansion or a here-document starts, whose extent the rest
of the line decides, the scanner gives up: nothing is claimed about what follows.

* `Scanner.run_append`: a line is scanned part by part;
* `Scanner.run_prepend`: what is scanned does not depend on the tokens before it;
* `Scanner.step_inQuotes`, `Scanner.run_escapedQuote`: what stands between single quotes;
* `invocation`: the assignments and the arguments of a line that is one simple command.
-/

namespace Sysal.Shell

/-! ### Letters and tokens -/

/-- A letter of a word. -/
structure Letter where
  byte : UInt8
  quoted : Bool
  deriving DecidableEq, Repr

/-- A letter the shell takes for itself. -/
def Letter.literal (byte : UInt8) : Letter := { byte, quoted := true }

/-- A letter as it stands on the line. -/
def Letter.bare (byte : UInt8) : Letter := { byte, quoted := false }

inductive Token where
  | word (letters : List Letter)
  | operator (text : Bytes)
  deriving DecidableEq, Repr

/-- The control and redirection operators, a newline among them. -/
def operators : List Bytes :=
  [utf8 "&", utf8 "&&", utf8 "|", utf8 "||", utf8 ";", utf8 ";;", utf8 "(", utf8 ")", utf8 "\n",
    utf8 "<", utf8 ">", utf8 "<<", utf8 ">>", utf8 "<&", utf8 ">&", utf8 "<>", utf8 ">|"]

def isBlank (c : UInt8) : Bool := c == 32 || c == 9

/-- What the scanner is inside of. -/
inductive Mode where
  | plain
  | escaped
  | single
  | double
  | doubleEscaped
  | comment
  | unsupported
  deriving DecidableEq, Repr

/-- The tokens delimited so far and the one under construction. -/
structure Scanner where
  mode : Mode := .plain
  current : Option Token := none
  tokens : List Token := []
  deriving DecidableEq, Repr

namespace Scanner

/-! ### The step -/

/-- The current token ends. -/
def delimit (s : Scanner) : Scanner :=
  { s with current := none, tokens := s.tokens ++ s.current.toList }

/-- A word is under construction, possibly an empty one. -/
def openWord (s : Scanner) : Scanner :=
  match s.current with
  | some (.word _) => s
  | _ => { s.delimit with current := some (.word []) }

/-- The letter joins the current word, or starts one. -/
def append (s : Scanner) (letter : Letter) : Scanner :=
  match s.current with
  | some (.word letters) => { s with current := some (.word (letters ++ [letter])) }
  | _ => { s.delimit with current := some (.word [letter]) }

/-- An unquoted byte that does not continue an operator. -/
def unquoted (s : Scanner) (c : UInt8) : Scanner :=
  if c = 39 then { s.openWord with mode := .single }
  else if c = 34 then { s.openWord with mode := .double }
  else if c = 36 ∨ c = 96 then { s with mode := .unsupported }
  else if [c] ∈ operators then { s.delimit with current := some (.operator [c]) }
  else if isBlank c then s.delimit
  else if c = 35 ∧ s.current = none then { s with mode := .comment }
  else s.append (.bare c)

/-- A byte outside of quotes; operators are as long as possible. -/
def plainStep (s : Scanner) (c : UInt8) : Scanner :=
  if c = 92 then { s with mode := .escaped }
  else
    match s.current with
    | some (.operator text) =>
        if text ++ [c] = utf8 "<<" then { s with mode := .unsupported }
        else if text ++ [c] ∈ operators then { s with current := some (.operator (text ++ [c])) }
        else s.delimit.unquoted c
    | _ => s.unquoted c

def step (s : Scanner) (c : UInt8) : Scanner :=
  match s.mode with
  | .plain => s.plainStep c
  -- an escaped newline joins two lines and leaves no letter
  | .escaped =>
      if c = 10 then { s with mode := .plain } else { s.append (.literal c) with mode := .plain }
  | .single => if c = 39 then { s with mode := .plain } else s.append (.literal c)
  | .double =>
      if c = 34 then { s with mode := .plain }
      else if c = 92 then { s with mode := .doubleEscaped }
      else if c = 36 ∨ c = 96 then { s with mode := .unsupported }
      else s.append (.literal c)
  -- between double quotes a backslash escapes five bytes and stands for itself before the others
  | .doubleEscaped =>
      if c = 10 then { s with mode := .double }
      else if c ∈ [34, 36, 92, 96] then { s.append (.literal c) with mode := .double }
      else { (s.append (.literal 92)).append (.literal c) with mode := .double }
  | .comment => if c = 10 then { s with mode := .plain }.plainStep c else s
  | .unsupported => s

/-- The scanner after a text. -/
def run (s : Scanner) (text : Bytes) : Scanner := text.foldl step s

@[simp] theorem run_nil (s : Scanner) : s.run [] = s := rfl

@[simp] theorem run_cons (s : Scanner) (c : UInt8) (text : Bytes) :
    s.run (c :: text) = (s.step c).run text := rfl

theorem run_append (s : Scanner) (a b : Bytes) : s.run (a ++ b) = (s.run a).run b :=
  List.foldl_append

/-! ### Tokens in front -/

/-- The scanner with more tokens delimited before its own. -/
def prepend (before : List Token) (s : Scanner) : Scanner :=
  { s with tokens := before ++ s.tokens }

@[simp] theorem prepend_mode (before : List Token) (s : Scanner) :
    (s.prepend before).mode = s.mode := rfl

@[simp] theorem prepend_current (before : List Token) (s : Scanner) :
    (s.prepend before).current = s.current := rfl

theorem delimit_prepend (before : List Token) (s : Scanner) :
    (s.prepend before).delimit = s.delimit.prepend before := by
  simp [prepend, delimit]

theorem openWord_prepend (before : List Token) (s : Scanner) :
    (s.prepend before).openWord = s.openWord.prepend before := by
  rw [openWord, openWord, delimit_prepend, prepend_current]
  split <;> rfl

theorem append_prepend (before : List Token) (s : Scanner) (letter : Letter) :
    (s.prepend before).append letter = (s.append letter).prepend before := by
  rw [append, append, delimit_prepend, prepend_current]
  split <;> rfl

theorem unquoted_prepend (before : List Token) (s : Scanner) (c : UInt8) :
    (s.prepend before).unquoted c = (s.unquoted c).prepend before := by
  rw [unquoted, unquoted, delimit_prepend, openWord_prepend, append_prepend, prepend_current]
  split_ifs <;> rfl

theorem plainStep_prepend (before : List Token) (s : Scanner) (c : UInt8) :
    (s.prepend before).plainStep c = (s.plainStep c).prepend before := by
  rw [plainStep, plainStep, delimit_prepend, prepend_current, unquoted_prepend, unquoted_prepend]
  split_ifs with hc
  · rfl
  · split
    · split_ifs <;> rfl
    · rfl

theorem step_prepend (before : List Token) (s : Scanner) (c : UInt8) :
    (s.prepend before).step c = (s.step c).prepend before := by
  rw [step, step, prepend_mode]
  cases s.mode with
  | plain => exact plainStep_prepend before s c
  | comment =>
      dsimp only
      split_ifs
      · exact plainStep_prepend before { s with mode := .plain } c
      · rfl
  | unsupported => rfl
  | escaped =>
      dsimp only
      rw [append_prepend]
      split_ifs <;> rfl
  | single =>
      dsimp only
      rw [append_prepend]
      split_ifs <;> rfl
  | double =>
      dsimp only
      rw [append_prepend]
      split_ifs <;> rfl
  | doubleEscaped =>
      dsimp only
      rw [append_prepend, append_prepend, append_prepend]
      split_ifs <;> rfl

/-- What is scanned does not depend on the tokens before it. -/
theorem run_prepend (before : List Token) (s : Scanner) (text : Bytes) :
    (s.prepend before).run text = (s.run text).prepend before := by
  induction text generalizing s with
  | nil => rfl
  | cons c text ih => rw [run_cons, run_cons, step_prepend, ih]

/-! ### Blanks -/

theorem unquoted_blank (s : Scanner) {c : UInt8} (hc : isBlank c = true) :
    s.unquoted c = s.delimit := by
  rw [isBlank, Bool.or_eq_true, beq_iff_eq, beq_iff_eq] at hc
  rcases hc with rfl | rfl
  · rfl
  · rfl

/-- No operator of two bytes ends in a blank. -/
theorem append_blank_notMem (text : Bytes) {c : UInt8} (hc : isBlank c = true) :
    text ++ [c] ∉ operators := by
  intro hmem
  have hlast : ∀ o ∈ operators, ∀ h : o ≠ [], isBlank (o.getLast h) = false := by decide
  have := hlast _ hmem (by simp)
  rw [List.getLast_append_singleton, hc] at this
  contradiction

theorem delimit_delimit (s : Scanner) : s.delimit.delimit = s.delimit := by
  simp [delimit]

/-- A blank outside of quotes ends the current token and does nothing else. -/
theorem step_blank {s : Scanner} (hs : s.mode = .plain) {c : UInt8} (hc : isBlank c = true) :
    s.step c = s.delimit := by
  have hbackslash : c ≠ 92 := by
    rintro rfl
    exact absurd hc (by decide)
  rw [step, hs]
  dsimp only
  rw [plainStep, if_neg hbackslash]
  cases h : s.current with
  | none => exact unquoted_blank s hc
  | some token =>
      cases token with
      | word letters => exact unquoted_blank s hc
      | operator text =>
          have hmem := append_blank_notMem text hc
          have hhere : text ++ [c] ≠ utf8 "<<" := fun heq => hmem (heq ▸ by decide)
          dsimp only
          rw [if_neg hhere, if_neg hmem, unquoted_blank _ hc, delimit_delimit]

/-! ### Single quotes -/

/-- The scanner between two tokens. -/
def between (tokens : List Token) : Scanner := { tokens }

/-- The scanner in a word, outside of quotes. -/
def inWord (tokens : List Token) (letters : List Letter) : Scanner :=
  { current := some (.word letters), tokens }

/-- The scanner inside of single quotes, with the letters of the word so far. -/
def inQuotes (tokens : List Token) (letters : List Letter) : Scanner :=
  { mode := .single, current := some (.word letters), tokens }

/-- A blank behind a word delimits it. -/
theorem step_inWord_blank (tokens : List Token) (letters : List Letter) {c : UInt8}
    (hc : isBlank c = true) :
    (inWord tokens letters).step c = between (tokens ++ [.word letters]) := step_blank rfl hc

/-- Bytes between single quotes join the word as they are. -/
theorem step_inQuotes (tokens : List Token) (letters : List Letter) {c : UInt8} (hc : c ≠ 39) :
    (inQuotes tokens letters).step c = inQuotes tokens (letters ++ [.literal c]) := by
  rw [inQuotes, step]
  dsimp only
  rw [if_neg hc]
  rfl

/-- A quoted quote: the text is closed, an escaped quote follows, and a new text is opened. -/
theorem run_escapedQuote (tokens : List Token) (letters : List Letter) :
    (inQuotes tokens letters).run [39, 92, 39, 39] = inQuotes tokens (letters ++ [.literal 39]) := rfl

/-- A quote opens a word where none is under construction. -/
theorem step_openQuote (tokens : List Token) :
    (between tokens).step 39 = inQuotes tokens [] := by
  rw [between, step, plainStep, if_neg (by decide)]
  dsimp only
  rw [unquoted, if_pos rfl, openWord]
  exact congrArg (fun t => inQuotes t []) (List.append_nil tokens)

/-- A quote closes the text; the word stays open. -/
theorem step_closeQuote (tokens : List Token) (letters : List Letter) :
    (inQuotes tokens letters).step 39 = inWord tokens letters := rfl

end Scanner

/-! ### Simple commands -/

/-- The scanner at the start of a line. -/
def scan (line : Bytes) : Scanner := Scanner.run {} line

theorem scan_append (a b : Bytes) : scan (a ++ b) = (scan a).run b := Scanner.run_append _ a b

/-- The tokens of a line whose quotes are closed. -/
def tokens (line : Bytes) : Option (List Token) :=
  if (scan line).mode = .plain ∨ (scan line).mode = .comment then some (scan line).delimit.tokens
  else none

/-- Bytes that start a pattern, a tilde or a brace expansion where they are not quoted. -/
def isPattern (c : UInt8) : Bool := c ∈ utf8 "*?[]~{}"

/-- The value of a word in which nothing is expanded. -/
def literalValue (letters : List Letter) : Option Bytes :=
  if letters.all fun letter => letter.quoted || !isPattern letter.byte
  then some (letters.map Letter.byte) else none

def isNameByte (c : UInt8) : Bool := isDigit c || (65 ≤ c && c ≤ 90) || (97 ≤ c && c ≤ 122) || c == 95

/-- `name=value`, the name and the sign not quoted. -/
def isAssignment (letters : List Letter) : Bool :=
  match letters.span (· ≠ .bare 61) with
  | (name, _ :: _) =>
      name.all (fun letter => !letter.quoted && isNameByte letter.byte) &&
        name.head?.any fun letter => !isDigit letter.byte
  | (_, []) => false

def Token.letters? : Token → Option (List Letter)
  | .word letters => some letters
  | .operator _ => none

/-- What a simple command runs: its environment and its argument vector. -/
structure Invocation where
  environment : List Bytes
  arguments : List Bytes
  deriving DecidableEq, Repr

/-- The command a line of words runs; the assignments are in front. -/
def invocationOf (tokens : List Token) : Option Invocation := do
  let letters ← tokens.mapM Token.letters?
  let environment ← (letters.takeWhile isAssignment).mapM literalValue
  let arguments ← (letters.dropWhile isAssignment).mapM literalValue
  return { environment, arguments }


/-- The command a line runs, where the line is one simple command without expansions. -/
def invocation (line : Bytes) : Option Invocation := (tokens line).bind invocationOf

/-! ### One more word -/

/-- A quoted word has its letters as value. -/
theorem literalValue_literal (value : Bytes) : literalValue (value.map .literal) = some value := by
  rw [literalValue, if_pos (by simp [Letter.literal]), List.map_map]
  exact congrArg some (List.map_id value)

/-- What the tokens behind the name of a command add to its arguments. -/
def furtherArguments (tokens : List Token) : Option (List Bytes) := do
  let letters ← tokens.mapM Token.letters?
  letters.mapM literalValue

/-- Behind the name of a command every word is an argument, whatever it looks like. -/
theorem invocationOf_append {before after : List Token} {environment arguments more : List Bytes}
    {name value : Bytes} {letters : List Letter}
    (hbefore : invocationOf before = some { environment, arguments := name :: arguments })
    (hvalue : literalValue letters = some value) (hafter : furtherArguments after = some more) :
    invocationOf (before ++ .word letters :: after) =
      some { environment, arguments := name :: arguments ++ value :: more } := by
  simp only [invocationOf, Option.bind_eq_bind, Option.bind_eq_some_iff, Option.pure_def,
    Option.some.injEq, Invocation.mk.injEq] at hbefore
  obtain ⟨words, hwords, _, henvironment, _, hname, rfl, rfl⟩ := hbefore
  simp only [furtherArguments, Option.bind_eq_bind, Option.bind_eq_some_iff] at hafter
  obtain ⟨rest, hrest, hmore⟩ := hafter
  have hnonempty : words.dropWhile isAssignment ≠ [] := by
    intro hnil
    rw [hnil] at hname
    simp at hname
  have hdrop : (words ++ letters :: rest).dropWhile isAssignment =
      words.dropWhile isAssignment ++ letters :: rest := by
    rw [List.dropWhile_append, if_neg (by simpa using hnonempty)]
  have htake : (words ++ letters :: rest).takeWhile isAssignment = words.takeWhile isAssignment := by
    have hsplit := congrArg List.length (List.takeWhile_append_dropWhile (p := isAssignment) (l := words))
    rw [List.length_append] at hsplit
    have hpos := List.length_pos_iff.mpr hnonempty
    rw [List.takeWhile_append, if_neg (by omega)]
  simp [invocationOf, List.mapM_append, hwords, hrest, Token.letters?, hdrop, htake, henvironment,
    hname, hvalue, hmore]

end Sysal.Shell
