import Mathlib.Data.List.Basic

/-!
# Token recognition

The quoting and token recognition rules of the POSIX shell command language, over bytes.
-/
namespace Porter.Shell

abbrev Bytes := List UInt8

def utf8 (text : String) : Bytes := text.toByteArray.data.toList

def byte (c : Char) : UInt8 := UInt8.ofNat c.toNat

inductive ReadError where
  | nul
  | unterminated
  | expansion
  | unsupported
  | misplaced
deriving DecidableEq

structure Piece where
  byte : UInt8
  quoted : Bool
deriving DecidableEq

abbrev Word := List Piece

variable (text : Bytes)

def plain : Word := text.map (fun b => ⟨b, false⟩)

def quoted : Word := text.map (fun b => ⟨b, true⟩)

inductive Token where
  | word (w : Word)
  | operator (text : Bytes)
  | ioNumber (digits : Bytes)
  | newline
deriving DecidableEq

inductive Mode where
  | start
  | comment
  | operator (text : Bytes)
  | word (w : Word)
  | single (w : Word)
  | double (w : Word)
  | escape (w : Option Word)
  | doubleEscape (w : Word)
deriving DecidableEq

structure Lexer where
  tokens : List Token
  mode : Mode

def operators : List Bytes :=
  [['&', '&'], ['|', '|'], [';', ';'], ['<', '<'], ['>', '>'], ['<', '&'], ['>', '&'], ['<', '>'],
    ['<', '<', '-'], ['>', '|'], ['&'], ['|'], [';'], ['<'], ['>'], ['('], [')']].map (·.map byte)

def isOperator : Bool := operators.contains text

variable (b : UInt8)

def isBlank : Bool := b == byte ' ' || b == byte '\t'

def isDigit : Bool := byte '0' ≤ b && b ≤ byte '9'

def isDoubleEscaped : Bool :=
  b == byte '$' || b == byte '`' || b == byte '"' || b == byte '\\'

def wordToken (w : Word) (b : UInt8) : Token :=
  if !w.isEmpty && w.all (fun p => !p.quoted && isDigit p.byte) && (b == byte '<' || b == byte '>')
  then .ioNumber (w.map Piece.byte)
  else .word w

variable (tokens : List Token)

def Lexer.extend (w : Option Word) (b : UInt8) : Lexer :=
  match w with
  | none =>
    if b == byte '#' then ⟨tokens, .comment⟩ else ⟨tokens, .word (plain [b])⟩
  | some w => ⟨tokens, .word (w ++ plain [b])⟩

def delimited (w : Option Word) (b : UInt8) : List Token :=
  match w with
  | none => tokens
  | some w => tokens ++ [wordToken w b]

def Lexer.unquoted (w : Option Word) (b : UInt8) : Except ReadError Lexer :=
  if b == byte '\\' then .ok ⟨tokens, .escape w⟩
  else if b == byte '\'' then .ok ⟨tokens, .single (w.getD [])⟩
  else if b == byte '"' then .ok ⟨tokens, .double (w.getD [])⟩
  else if b == byte '$' || b == byte '`' then .error .expansion
  else if isOperator [b] then .ok ⟨delimited tokens w b, .operator [b]⟩
  else if b == byte '\n' then .ok ⟨delimited tokens w b ++ [.newline], .start⟩
  else if isBlank b then .ok ⟨delimited tokens w b, .start⟩
  else .ok (Lexer.extend tokens w b)

variable (s : Lexer)

def Lexer.step (b : UInt8) : Except ReadError Lexer :=
  if b == 0 then .error .nul
  else
    match s.mode with
    | .start => Lexer.unquoted s.tokens none b
    | .word w => Lexer.unquoted s.tokens (some w) b
    | .operator text =>
      if isOperator (text ++ [b]) then .ok ⟨s.tokens, .operator (text ++ [b])⟩
      else Lexer.unquoted (s.tokens ++ [.operator text]) none b
    | .comment =>
      if b == byte '\n' then .ok ⟨s.tokens ++ [.newline], .start⟩ else .ok s
    | .single w =>
      if b == byte '\'' then .ok ⟨s.tokens, .word w⟩
      else .ok ⟨s.tokens, .single (w ++ quoted [b])⟩
    | .double w =>
      if b == byte '"' then .ok ⟨s.tokens, .word w⟩
      else if b == byte '\\' then .ok ⟨s.tokens, .doubleEscape w⟩
      else if b == byte '$' || b == byte '`' then .error .expansion
      else .ok ⟨s.tokens, .double (w ++ quoted [b])⟩
    | .escape w =>
      -- A backslash and a newline are both removed.
      if b == byte '\n' then .ok ⟨s.tokens, w.elim .start .word⟩
      else .ok ⟨s.tokens, .word (w.getD [] ++ quoted [b])⟩
    | .doubleEscape w =>
      if b == byte '\n' then .ok ⟨s.tokens, .double w⟩
      else if isDoubleEscaped b then .ok ⟨s.tokens, .double (w ++ quoted [b])⟩
      else .ok ⟨s.tokens, .double (w ++ quoted [byte '\\', b])⟩

def Lexer.read (text : Bytes) : Except ReadError Lexer := text.foldlM Lexer.step s

def Lexer.finish : Except ReadError (List Token) :=
  match s.mode with
  | .start => .ok s.tokens
  | .comment => .ok s.tokens
  | .operator text => .ok (s.tokens ++ [.operator text])
  | .word w => .ok (s.tokens ++ [.word w])
  | .escape _ => .error .unterminated
  | .single _ => .error .unterminated
  | .double _ => .error .unterminated
  | .doubleEscape _ => .error .unterminated

def lex : Except ReadError (List Token) :=
  match Lexer.read ⟨[], .start⟩ text with
  | .ok s => s.finish
  | .error e => .error e

theorem Lexer.read_append (first second : Bytes) :
    s.read (first ++ second) = (s.read first).bind (fun s => s.read second) :=
  List.foldlM_append

theorem Lexer.read_cons (b : UInt8) (rest : Bytes) :
    s.read (b :: rest) = (s.step b).bind (fun s => s.read rest) := rfl

theorem Lexer.read_append_of {s next : Lexer} {first : Bytes} (second : Bytes)
    (reads : s.read first = .ok next) : s.read (first ++ second) = next.read second := by
  rw [Lexer.read_append, reads]
  rfl

def isOrdinary : Bool :=
  !(b == 0 || b == byte '\\' || b == byte '\'' || b == byte '"' || b == byte '$' ||
    b == byte '`' || isOperator [b] || b == byte '\n' || isBlank b || b == byte '#')

theorem Lexer.unquoted_ordinary (w : Option Word) (b : UInt8) (ordinary : isOrdinary b = true) :
    Lexer.unquoted tokens w b = .ok ⟨tokens, .word (w.getD [] ++ plain [b])⟩ := by
  simp only [isOrdinary, Bool.not_eq_true', Bool.or_eq_false_iff] at ordinary
  obtain ⟨⟨⟨⟨⟨⟨⟨⟨⟨_, slash⟩, single⟩, double⟩, dollar⟩, back⟩, op⟩, line⟩, blank⟩, hash⟩ := ordinary
  cases w with
  | none => simp [Lexer.unquoted, Lexer.extend, slash, single, double, dollar, back, op, line,
      blank, hash]
  | some w => simp [Lexer.unquoted, Lexer.extend, slash, single, double, dollar, back, op, line,
      blank]

theorem ne_zero_of_ordinary {b : UInt8} (ordinary : isOrdinary b = true) : (b == 0) = false := by
  cases zero : b == 0 with
  | false => rfl
  | true => simp [isOrdinary, zero] at ordinary

theorem Lexer.read_ordinary (w : Word) (text : Bytes) (ordinary : ∀ b ∈ text, isOrdinary b = true) :
    Lexer.read ⟨tokens, .word w⟩ text = .ok ⟨tokens, .word (w ++ plain text)⟩ := by
  induction text generalizing w with
  | nil => simp [Lexer.read, plain, pure, Except.pure]
  | cons b rest recurse =>
    have head := ordinary b List.mem_cons_self
    have stepped : Lexer.step ⟨tokens, .word w⟩ b = .ok ⟨tokens, .word (w ++ plain [b])⟩ := by
      simp only [Lexer.step, ne_zero_of_ordinary head, Bool.false_eq_true, if_false]
      exact Lexer.unquoted_ordinary tokens (some w) b head
    rw [Lexer.read_cons, stepped]
    have tail := recurse (w ++ plain [b])
      (fun c member => ordinary c (List.mem_cons_of_mem b member))
    simpa [Except.bind, plain] using tail

theorem Lexer.read_word (text : Bytes) (some_byte : text ≠ [])
    (ordinary : ∀ b ∈ text, isOrdinary b = true) :
    Lexer.read ⟨tokens, .start⟩ text = .ok ⟨tokens, .word (plain text)⟩ := by
  cases text with
  | nil => exact absurd rfl some_byte
  | cons b rest =>
    have head := ordinary b List.mem_cons_self
    have stepped : Lexer.step ⟨tokens, .start⟩ b = .ok ⟨tokens, .word (plain [b])⟩ := by
      simp only [Lexer.step, ne_zero_of_ordinary head, Bool.false_eq_true, if_false]
      exact Lexer.unquoted_ordinary tokens none b head
    rw [Lexer.read_cons, stepped]
    have tail := Lexer.read_ordinary tokens (plain [b]) rest
      (fun c member => ordinary c (List.mem_cons_of_mem b member))
    simpa [Except.bind, plain] using tail

theorem Lexer.read_blank (w : Word) :
    Lexer.read ⟨tokens, .word w⟩ (utf8 " ") = .ok ⟨tokens ++ [.word w], .start⟩ := by
  have blank : utf8 " " = [byte ' '] := rfl
  simp [blank, Lexer.read, Lexer.step, Lexer.unquoted, delimited, wordToken, byte, isBlank,
    isOperator, operators, bind, Except.bind, pure, Except.pure]

theorem Lexer.read_newline (w : Word) :
    Lexer.read ⟨tokens, .word w⟩ (utf8 "\n") = .ok ⟨tokens ++ [.word w, .newline], .start⟩ := by
  have line : utf8 "\n" = [byte '\n'] := rfl
  simp [line, Lexer.read, Lexer.step, Lexer.unquoted, delimited, wordToken, byte,
    isOperator, operators, bind, Except.bind, pure, Except.pure]

theorem Lexer.step_single (w : Word) (b : UInt8) (nul : b ≠ 0) (other : b ≠ byte '\'') :
    Lexer.step ⟨tokens, .single w⟩ b = .ok ⟨tokens, .single (w ++ quoted [b])⟩ := by
  simp [Lexer.step, nul, other]

end Porter.Shell
