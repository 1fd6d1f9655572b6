import Porter.Shell.Lexer

/-!
# Lists of simple commands

Simple commands with assignments, arguments and redirections, joined by `&&` and `||` and separated
by newlines and semicolons.
-/
namespace Porter.Shell

structure Redirect where
  fd : Option Bytes
  op : Bytes
  target : Bytes
deriving DecidableEq

structure SimpleCommand where
  assigns : List Bytes
  argv : List Bytes
  redirects : List Redirect
deriving DecidableEq

inductive Connector where
  | andThen
  | orElse
deriving DecidableEq

structure AndOr where
  first : SimpleCommand
  rest : List (Connector × SimpleCommand)
deriving DecidableEq

def simple (argv : List Bytes) : SimpleCommand := ⟨[], argv, []⟩

def alone (command : SimpleCommand) : AndOr := ⟨command, []⟩

def reservedWords : List Bytes :=
  ["!", "\x7b", "\x7d", "case", "do", "done", "elif", "else", "esac", "fi", "for", "if", "in",
    "then", "until", "while"].map utf8

def isNameStart (b : UInt8) : Bool :=
  b == byte '_' || (byte 'A' ≤ b && b ≤ byte 'Z') || (byte 'a' ≤ b && b ≤ byte 'z')

def isName : Bytes → Bool
  | [] => false
  | b :: rest => isNameStart b && rest.all (fun c => isNameStart c || isDigit c)

def isAssignment (w : Word) : Bool :=
  let name := w.takeWhile (fun p => p != ⟨byte '=', false⟩)
  name.length < w.length && name.all (fun p => !p.quoted) && isName (name.map Piece.byte)

def mayExpand (p : Piece) : Bool :=
  !p.quoted &&
    (p.byte == byte '*' || p.byte == byte '?' || p.byte == byte '[' || p.byte == byte '~')

def literal (w : Word) : Except ReadError Bytes :=
  if w.any mayExpand then .error .expansion else .ok (w.map Piece.byte)

inductive Pending where
  | nothing
  | number (fd : Bytes)
  | redirect (fd : Option Bytes) (op : Bytes)
deriving DecidableEq

structure Parser where
  done : List AndOr
  chain : Option (AndOr × Connector)
  current : SimpleCommand
  pending : Pending
deriving DecidableEq

def SimpleCommand.isEmpty (c : SimpleCommand) : Bool :=
  c.assigns.isEmpty && c.argv.isEmpty && c.redirects.isEmpty

variable (done : List AndOr)

def Parser.between : Parser := ⟨done, none, simple [], .nothing⟩

def Parser.within (argv : List Bytes) : Parser :=
  ⟨done, none, simple argv, .nothing⟩

def Parser.list (s : Parser) : AndOr :=
  match s.chain with
  | none => alone s.current
  | some (list, connector) => ⟨list.first, list.rest ++ [(connector, s.current)]⟩

variable (s : Parser)

def Parser.argument (w : Word) : Except ReadError Parser :=
  if s.current.argv.isEmpty && w ∈ reservedWords.map plain then .error .unsupported
  else
    match literal w with
    | .error e => .error e
    | .ok text =>
      if s.current.argv.isEmpty && isAssignment w then
        .ok { s with current := { s.current with assigns := s.current.assigns ++ [text] } }
      else .ok { s with current := { s.current with argv := s.current.argv ++ [text] } }

def Parser.target (fd : Option Bytes) (op : Bytes) (w : Word) : Except ReadError Parser :=
  match literal w with
  | .error e => .error e
  | .ok text =>
    .ok { s with
      current := { s.current with redirects := s.current.redirects ++ [⟨fd, op, text⟩] }
      pending := .nothing }

def redirections : List Bytes := ["<", ">", ">>", ">|", "<>", "<&", ">&"].map utf8

def Parser.operator (op : Bytes) : Except ReadError Parser :=
  if op ∈ redirections then .ok { s with pending := .redirect none op }
  else if s.current.isEmpty then .error .misplaced
  else if op = utf8 "&&" then .ok ⟨s.done, some (s.list, .andThen), simple [], .nothing⟩
  else if op = utf8 "||" then .ok ⟨s.done, some (s.list, .orElse), simple [], .nothing⟩
  else if op = utf8 ";" then .ok (.between (s.done ++ [s.list]))
  else .error .unsupported

def Parser.newline : Parser :=
  if s.current.isEmpty then s else .between (s.done ++ [s.list])

def Parser.step (t : Token) : Except ReadError Parser :=
  match s.pending, t with
  | .nothing, .word w => s.argument w
  | .nothing, .operator op => s.operator op
  | .nothing, .ioNumber fd => .ok { s with pending := .number fd }
  | .nothing, .newline => .ok s.newline
  | .number fd, .operator op =>
    if op ∈ redirections then .ok { s with pending := .redirect (some fd) op }
    else .error .misplaced
  | .redirect fd op, .word w => s.target fd op w
  | _, _ => .error .misplaced

def Parser.parse (tokens : List Token) : Except ReadError Parser :=
  tokens.foldlM Parser.step s

def Parser.finish : Except ReadError (List AndOr) :=
  match s.pending with
  | .nothing =>
    if s.current.isEmpty then (if s.chain.isNone then .ok s.done else .error .misplaced)
    else .ok (s.done ++ [s.list])
  | _ => .error .misplaced

def read (script : Bytes) : Except ReadError (List AndOr) :=
  match lex script with
  | .error e => .error e
  | .ok tokens =>
    match Parser.parse (.between []) tokens with
    | .error e => .error e
    | .ok s => s.finish

theorem Parser.parse_append_of {s next : Parser} {first : List Token} (second : List Token)
    (parses : s.parse first = .ok next) : s.parse (first ++ second) = next.parse second := by
  unfold Parser.parse at parses ⊢
  rw [List.foldlM_append, parses]
  rfl

def ReadsAs (text : Bytes) (lists : List AndOr) : Prop :=
  ∃ tokens, (∀ before, Lexer.read ⟨before, .start⟩ text = .ok ⟨before ++ tokens, .start⟩) ∧
    ∀ done, Parser.parse (.between done) tokens = .ok (.between (done ++ lists))

theorem ReadsAs.nil : ReadsAs [] [] := by
  refine ⟨[], ?_, ?_⟩
  · intro before
    simp [Lexer.read, pure, Except.pure]
  · intro done
    simp [Parser.parse, pure, Except.pure]

theorem ReadsAs.append {first second : Bytes} {lists more : List AndOr}
    (head : ReadsAs first lists) (tail : ReadsAs second more) :
    ReadsAs (first ++ second) (lists ++ more) := by
  obtain ⟨tokens, lexed, parsed⟩ := head
  obtain ⟨later, lexedLater, parsedLater⟩ := tail
  refine ⟨tokens ++ later, ?_, ?_⟩
  · intro before
    rw [Lexer.read_append_of _ (lexed before), lexedLater, List.append_assoc]
  · intro done
    rw [Parser.parse_append_of _ (parsed done), parsedLater, List.append_assoc]

theorem ReadsAs.flatMap {α : Type} (items : List α) (line : α → Bytes)
    (lists : α → List AndOr) (each : ∀ item ∈ items, ReadsAs (line item) (lists item)) :
    ReadsAs (items.flatMap line) (items.flatMap lists) := by
  induction items with
  | nil => exact ReadsAs.nil
  | cons item rest recurse =>
    rw [List.flatMap_cons, List.flatMap_cons]
    refine (each item List.mem_cons_self).append (recurse ?_)
    intro other member
    exact each other (List.mem_cons_of_mem item member)

theorem read_of_readsAs {first second : Bytes} {tokens : List Token} {done lists : List AndOr}
    (lexed : Lexer.read ⟨[], .start⟩ first = .ok ⟨tokens, .start⟩)
    (parsed : Parser.parse (.between []) tokens = .ok (.between done))
    (tail : ReadsAs second lists) : read (first ++ second) = .ok (done ++ lists) := by
  obtain ⟨later, lexedLater, parsedLater⟩ := tail
  have lexes : lex (first ++ second) = .ok (tokens ++ later) := by
    simp only [lex, Lexer.read_append_of _ lexed, lexedLater, Lexer.finish]
  have parses : Parser.parse (.between []) (tokens ++ later) = .ok (.between (done ++ lists)) := by
    rw [Parser.parse_append_of _ parsed, parsedLater]
  simp only [read, lexes, parses]
  simp [Parser.finish, Parser.between, SimpleCommand.isEmpty, simple]

theorem literal_quoted (text : Bytes) : literal (quoted text) = .ok text := by
  simp [literal, quoted, mayExpand, Function.comp_def]

theorem Parser.step_argument (argv : List Bytes) {w : Word} {text : Bytes} (named : argv ≠ [])
    (stands : literal w = .ok text) :
    Parser.step (.within done argv) (.word w) = .ok (.within done (argv ++ [text])) := by
  simp [Parser.step, Parser.argument, Parser.within, simple, named, stands]

theorem Parser.parse_quoted (argv args : List Bytes) (named : argv ≠ []) :
    Parser.parse (.within done argv) (args.map (fun arg => .word (quoted arg))) =
      .ok (.within done (argv ++ args)) := by
  induction args generalizing argv with
  | nil => simp [Parser.parse, pure, Except.pure]
  | cons arg rest recurse =>
    have stepped := Parser.step_argument done argv named (literal_quoted arg)
    have tail := recurse (argv ++ [arg]) (by simp)
    unfold Parser.parse at tail ⊢
    rw [List.map_cons, List.foldlM_cons, stepped]
    simpa [bind, Except.bind] using tail

theorem Parser.step_newline (argv : List Bytes) (named : argv ≠ []) :
    Parser.step (.within done argv) .newline =
      .ok (.between (done ++ [alone (simple argv)])) := by
  simp [Parser.step, Parser.newline, Parser.within, Parser.list, SimpleCommand.isEmpty, simple,
    named]

end Porter.Shell
