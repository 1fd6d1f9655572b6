import Porter.Go.Utf8
import Porter.Shell.Grammar

/-!
# The init script of a converted image

`BuildInitScript` renders the entrypoint, arguments, environment and working directory of an image
into a shell script, the first process of the guest.
-/
namespace Porter.Buildkit

open Go Shell

def replaceByte (s : Bytes) (old : UInt8) (new : Bytes) : Bytes :=
  s.flatMap (fun b => if b == old then new else [b])

def cut (sep : UInt8) : Bytes → Option (Bytes × Bytes)
  | [] => none
  | b :: rest =>
    if b == sep then some ([], rest)
    else (cut sep rest).map (fun (before, after) => (b :: before, after))

def shQuote (s : Bytes) : Bytes :=
  [byte '\''] ++ replaceByte s (byte '\'') (utf8 "'\\''") ++ [byte '\'']

variable (i : Nat)

def validEnvRune (rune : Nat) : Bool :=
  rune == '_'.toNat || ('A'.toNat ≤ rune && rune ≤ 'Z'.toNat) ||
    ('a'.toNat ≤ rune && rune ≤ 'z'.toNat) ||
    ('0'.toNat ≤ rune && rune ≤ '9'.toNat && 0 < i)

def validEnvName (k : Bytes) : Bool :=
  !k.isEmpty && (runes k).all (fun entry => validEnvRune entry.1 entry.2)

def fixedLines : Bytes :=
  utf8 "#!/bin/sh\n# generated by porter: OCI config -> PID 1\n" ++
  utf8 "mount -t proc proc /proc 2>/dev/null\n" ++
  utf8 "mount -t sysfs sys /sys 2>/dev/null\n" ++
  utf8 "mount -t devtmpfs dev /dev 2>/dev/null\n" ++
  utf8 "mkdir -p /dev/pts /dev/shm && mount -t devpts devpts /dev/pts 2>/dev/null\n" ++
  utf8 "mount -t tmpfs tmpfs /tmp 2>/dev/null\n" ++
  utf8 "export PATH=/usr/local/sbin:/usr/local/bin:/usr/sbin:/usr/bin:/sbin:/bin\n"

variable (kv : Bytes)

def exportLine : Bytes :=
  match cut (byte '=') kv with
  | none => []
  | some (k, v) =>
    if validEnvName k then utf8 "export " ++ k ++ utf8 "=" ++ shQuote v ++ utf8 "\n" else []

variable (workdir : Bytes)

def cdLine : Bytes :=
  if workdir.isEmpty then [] else utf8 "cd " ++ shQuote workdir ++ utf8 " || exit 1\n"

variable (argv : List Bytes)

def execLine : Bytes :=
  utf8 "exec" ++ argv.flatMap (fun a => utf8 " " ++ shQuote a) ++ utf8 "\n"

def buildInitScript (entrypoint cmd env : List Bytes) (workdir : Bytes) : Except String Bytes :=
  let argv := entrypoint ++ cmd
  if argv.isEmpty then .error "image has no ENTRYPOINT or CMD; nothing to run as PID 1"
  else .ok (fixedLines ++ env.flatMap exportLine ++ cdLine workdir ++ execLine argv)

def mountCommand (kind device dir : String) : SimpleCommand where
  assigns := []
  argv := ["mount", "-t", kind, device, dir].map utf8
  redirects := [⟨some (utf8 "2"), utf8 ">", utf8 "/dev/null"⟩]

def fixedCommands : List AndOr :=
  [alone (mountCommand "proc" "proc" "/proc"),
    alone (mountCommand "sysfs" "sys" "/sys"),
    alone (mountCommand "devtmpfs" "dev" "/dev"),
    ⟨simple (["mkdir", "-p", "/dev/pts", "/dev/shm"].map utf8),
      [(.andThen, mountCommand "devpts" "devpts" "/dev/pts")]⟩,
    alone (mountCommand "tmpfs" "tmpfs" "/tmp"),
    alone (simple (["export",
      "PATH=/usr/local/sbin:/usr/local/bin:/usr/sbin:/usr/bin:/sbin:/bin"].map utf8))]

/-- What stands before the first `=`, when that is a legal variable name, and what stands behind. -/
def envPair : Option (Bytes × Bytes) :=
  (cut (byte '=') kv).filter (fun pair => isName pair.1)

def exportCommand (pair : Bytes × Bytes) : AndOr :=
  alone (simple [utf8 "export", pair.1 ++ utf8 "=" ++ pair.2])

def cdCommands : List AndOr :=
  if workdir = [] then []
  else [⟨simple [utf8 "cd", workdir], [(.orElse, simple [utf8 "exit", utf8 "1"])]⟩]

def execCommand : AndOr := alone (simple (utf8 "exec" :: argv))

variable (tokens : List Token) (w : Word) (b : UInt8)

theorem read_quotedByte (nul : b ≠ 0) :
    Lexer.read ⟨tokens, .single w⟩ (if b == byte '\'' then utf8 "'\\''" else [b]) =
      .ok ⟨tokens, .single (w ++ quoted [b])⟩ := by
  by_cases quote : b = byte '\''
  · subst quote
    rfl
  · have other : (b == byte '\'') = false := by simpa using quote
    rw [other, if_neg Bool.false_ne_true, Lexer.read_cons]
    simp [Lexer.step_single tokens w b nul quote, Lexer.read, Except.bind, pure, Except.pure]

theorem read_replaced (s : Bytes) (clean : 0 ∉ s) :
    Lexer.read ⟨tokens, .single w⟩ (replaceByte s (byte '\'') (utf8 "'\\''")) =
      .ok ⟨tokens, .single (w ++ quoted s)⟩ := by
  induction s generalizing w with
  | nil => simp [replaceByte, quoted, Lexer.read, pure, Except.pure]
  | cons b rest recurse =>
    rw [List.mem_cons, not_or] at clean
    have head := read_quotedByte tokens w b (Ne.symm clean.1)
    have tail := recurse (w ++ quoted [b]) clean.2
    unfold replaceByte at tail ⊢
    rw [List.flatMap_cons, Lexer.read_append_of _ head, tail]
    simp [quoted]

theorem read_shQuote (s : Bytes) (clean : 0 ∉ s) :
    Lexer.read ⟨tokens, .word w⟩ (shQuote s) = .ok ⟨tokens, .word (w ++ quoted s)⟩ := by
  have opens : Lexer.read ⟨tokens, .word w⟩ [byte '\''] = .ok ⟨tokens, .single w⟩ := rfl
  unfold shQuote
  rw [List.append_assoc, Lexer.read_append_of _ opens,
    Lexer.read_append_of _ (read_replaced tokens w s clean)]
  rfl

theorem read_shQuote_start (s : Bytes) (clean : 0 ∉ s) :
    Lexer.read ⟨tokens, .start⟩ (shQuote s) = .ok ⟨tokens, .word (quoted s)⟩ := by
  have opens : Lexer.read ⟨tokens, .start⟩ [byte '\''] = .ok ⟨tokens, .single []⟩ := rfl
  unfold shQuote
  rw [List.append_assoc, Lexer.read_append_of _ opens,
    Lexer.read_append_of _ (read_replaced tokens [] s clean)]
  rfl

theorem isNameStart_eq :
    isNameStart b = (b.toNat == '_'.toNat || ('A'.toNat ≤ b.toNat && b.toNat ≤ 'Z'.toNat) ||
      ('a'.toNat ≤ b.toNat && b.toNat ≤ 'z'.toNat)) := by
  rw [Bool.eq_iff_iff]
  simp [isNameStart, byte, UInt8.le_iff_toNat_le, ← UInt8.toNat_inj]

theorem isDigit_eq : isDigit b = ('0'.toNat ≤ b.toNat && b.toNat ≤ '9'.toNat) := by
  simp [isDigit, byte, UInt8.le_iff_toNat_le]

theorem validEnvRune_succ : validEnvRune (i + 1) b.toNat = (isNameStart b || isDigit b) := by
  rw [isNameStart_eq, isDigit_eq]
  simp [validEnvRune]

theorem validEnvRune_zero : validEnvRune 0 b.toNat = isNameStart b := by
  rw [isNameStart_eq]
  simp [validEnvRune]

theorem validEnvRune_beyond (rune : Nat) (beyond : 0x80 ≤ rune) : validEnvRune i rune = false := by
  simp [validEnvRune]
  omega

theorem all_validEnvRune (rest : Bytes) :
    (rest.zipIdx (i + 1)).all (fun entry => validEnvRune entry.2 entry.1.toNat) =
      rest.all (fun c => isNameStart c || isDigit c) := by
  induction rest generalizing i with
  | nil => rfl
  | cons b rest recurse =>
    rw [List.zipIdx_cons, List.all_cons, List.all_cons, validEnvRune_succ, recurse]

theorem validEnvName_eq (k : Bytes) : validEnvName k = isName k := by
  unfold validEnvName runes
  rw [all_runes _ validEnvRune_beyond]
  cases k with
  | nil => rfl
  | cons b rest =>
    rw [List.zipIdx_cons, List.all_cons, all_validEnvRune, validEnvRune_zero]
    rfl

theorem cut_eq_some (sep : UInt8) (s before after : Bytes) :
    cut sep s = some (before, after) ↔ s = before ++ sep :: after ∧ sep ∉ before := by
  induction s generalizing before with
  | nil => simp [cut]
  | cons b rest recurse =>
    by_cases found : b = sep
    · subst found
      cases before with
      | nil => simp [cut, eq_comm]
      | cons c front => simp +contextual [cut, eq_comm]
    · have passes : (b == sep) = false := by simpa using found
      cases before with
      | nil => simp [cut, passes, found]
      | cons c front =>
        have tail := recurse front
        simp only [cut, passes, Bool.false_eq_true, if_false, Option.map_eq_some_iff, Prod.exists,
          Prod.mk.injEq, List.cons.injEq, List.cons_append, List.mem_cons, not_or]
        constructor
        · rintro ⟨front', after', inner, ⟨rfl, rfl⟩, rfl⟩
          obtain ⟨split, absent⟩ := tail.mp inner
          exact ⟨⟨rfl, split⟩, fun same => found same.symm, absent⟩
        · rintro ⟨⟨rfl, split⟩, _, absent⟩
          exact ⟨front, after, tail.mpr ⟨split, absent⟩, ⟨rfl, rfl⟩, rfl⟩

theorem envPair_eq_some (k v : Bytes) :
    envPair kv = some (k, v) ↔ kv = k ++ byte '=' :: v ∧ byte '=' ∉ k ∧ isName k = true := by
  unfold envPair
  rw [Option.filter_eq_some_iff, cut_eq_some, and_assoc]

theorem exportLine_eq :
    exportLine kv = (envPair kv).elim [] (fun pair =>
      utf8 "export " ++ pair.1 ++ utf8 "=" ++ shQuote pair.2 ++ utf8 "\n") := by
  unfold exportLine envPair
  cases cut (byte '=') kv with
  | none => rfl
  | some pair =>
    obtain ⟨k, v⟩ := pair
    by_cases legal : isName k = true
    · simp [validEnvName_eq, legal, Option.filter]
    · simp [validEnvName_eq, legal, Option.filter]

theorem ordinary_of_letter (letter : (isNameStart b || isDigit b) = true) :
    isOrdinary b = true ∧ mayExpand ⟨b, false⟩ = false := by
  have every : ∀ n < 256, (isNameStart (UInt8.ofNat n) || isDigit (UInt8.ofNat n)) = true →
      isOrdinary (UInt8.ofNat n) = true ∧ mayExpand ⟨UInt8.ofNat n, false⟩ = false := by
    decide +kernel
  have small := every b.toNat (UInt8.toNat_lt b)
  rw [UInt8.ofNat_toNat] at small
  exact small letter

theorem letter_of_isName {k : Bytes} (legal : isName k = true) (b : UInt8) (member : b ∈ k) :
    (isNameStart b || isDigit b) = true := by
  cases k with
  | nil => contradiction
  | cons head rest =>
    simp only [isName, Bool.and_eq_true, List.all_eq_true] at legal
    rcases List.mem_cons.mp member with rfl | later
    · simp [legal.1]
    · exact legal.2 b later

theorem literal_entry {k : Bytes} (legal : isName k = true) (v : Bytes) :
    literal (plain k ++ plain (utf8 "=") ++ quoted v) = .ok (k ++ utf8 "=" ++ v) := by
  have name : (plain k).any mayExpand = false := by
    rw [List.any_eq_false]
    intro piece member
    obtain ⟨b, inside, rfl⟩ := List.mem_map.mp member
    simp [(ordinary_of_letter b (letter_of_isName legal b inside)).2]
  have sign : (plain (utf8 "=")).any mayExpand = false := by decide
  have value : (quoted v).any mayExpand = false := by
    simp [quoted, mayExpand, Function.comp_def]
  simp only [literal, List.any_append, name, sign, value, Bool.or_false, Bool.false_eq_true,
    if_false]
  simp [plain, quoted, Function.comp_def]

theorem readsAs_export {k v : Bytes} (legal : isName k = true) (clean : 0 ∉ v) :
    ReadsAs (utf8 "export " ++ k ++ utf8 "=" ++ shQuote v ++ utf8 "\n")
      [exportCommand (k, v)] := by
  have nonempty : k ≠ [] := by
    rintro rfl
    contradiction
  refine ⟨[.word (plain (utf8 "export")),
    .word (plain k ++ plain (utf8 "=") ++ quoted v), .newline], ?_, ?_⟩
  · intro before
    have keyword : Lexer.read ⟨before, .start⟩ (utf8 "export ") =
        .ok ⟨before ++ [.word (plain (utf8 "export"))], .start⟩ := rfl
    have name := Lexer.read_word (before ++ [.word (plain (utf8 "export"))]) k nonempty
      (fun b member => (ordinary_of_letter b (letter_of_isName legal b member)).1)
    have sign := Lexer.read_ordinary (before ++ [.word (plain (utf8 "export"))]) (plain k)
      (utf8 "=") (by decide +kernel)
    rw [List.append_assoc, List.append_assoc, List.append_assoc, Lexer.read_append_of _ keyword,
      Lexer.read_append_of _ name, Lexer.read_append_of _ sign,
      Lexer.read_append_of _ (read_shQuote _ _ v clean), Lexer.read_newline]
    simp
  · intro done
    have keyword : Parser.step (.between done) (.word (plain (utf8 "export"))) =
        .ok (.within done [utf8 "export"]) := rfl
    have entry := Parser.step_argument done [utf8 "export"] (by simp)
      (literal_entry legal v)
    have line := Parser.step_newline done [utf8 "export", k ++ utf8 "=" ++ v] (by simp)
    simp only [Parser.parse, List.foldlM_cons, List.foldlM_nil, keyword, entry, line, bind,
      Except.bind, pure, Except.pure, List.cons_append, List.nil_append]
    rfl

theorem readsAs_exportLine (clean : 0 ∉ kv) :
    ReadsAs (exportLine kv) ((envPair kv).elim [] (fun pair => [exportCommand pair])) := by
  rw [exportLine_eq]
  cases found : envPair kv with
  | none => exact ReadsAs.nil
  | some pair =>
    obtain ⟨k, v⟩ := pair
    obtain ⟨rfl, _, legal⟩ := (envPair_eq_some _ k v).mp found
    refine readsAs_export legal ?_
    intro inside
    exact clean (List.mem_append_right k (List.mem_cons_of_mem _ inside))

theorem readsAs_cdLine (clean : 0 ∉ workdir) : ReadsAs (cdLine workdir) (cdCommands workdir) := by
  unfold cdLine cdCommands
  by_cases none : workdir = []
  · simpa [none] using ReadsAs.nil
  · have given : workdir.isEmpty = false := by simpa using none
    rw [given, if_neg Bool.false_ne_true, if_neg none]
    refine ⟨[.word (plain (utf8 "cd")), .word (quoted workdir), .operator (utf8 "||"),
      .word (plain (utf8 "exit")), .word (plain (utf8 "1")), .newline], ?_, ?_⟩
    · intro before
      have keyword : Lexer.read ⟨before, .start⟩ (utf8 "cd ") =
          .ok ⟨before ++ [.word (plain (utf8 "cd"))], .start⟩ := rfl
      have blank : utf8 " || exit 1\n" = utf8 " " ++ utf8 "|| exit 1\n" := rfl
      have rest (tokens : List Token) :
          Lexer.read ⟨tokens, .start⟩ (utf8 "|| exit 1\n") =
            .ok ⟨tokens ++ [.operator (utf8 "||")] ++ [.word (plain (utf8 "exit"))] ++
              [.word (plain (utf8 "1"))] ++ [.newline], .start⟩ := rfl
      rw [List.append_assoc, Lexer.read_append_of _ keyword,
        Lexer.read_append_of _ (read_shQuote_start _ workdir clean), blank,
        Lexer.read_append_of _ (Lexer.read_blank _ _), rest]
      simp
    · intro done
      have keyword : Parser.step (.between done) (.word (plain (utf8 "cd"))) =
          .ok (.within done [utf8 "cd"]) := rfl
      have entry := Parser.step_argument done [utf8 "cd"] (by simp)
        (literal_quoted workdir)
      simp only [Parser.parse, List.foldlM_cons, List.foldlM_nil, keyword, entry, bind,
        Except.bind, List.cons_append, List.nil_append]
      rfl

theorem read_arguments (before : List Token) (w : Word) (argv : List Bytes)
    (clean : ∀ a ∈ argv, 0 ∉ a) :
    Lexer.read ⟨before, .word w⟩ (argv.flatMap (fun a => utf8 " " ++ shQuote a) ++ utf8 "\n") =
      .ok ⟨before ++ .word w :: (argv.map (fun a => .word (quoted a)) ++ [.newline]), .start⟩ := by
  induction argv generalizing before w with
  | nil => exact Lexer.read_newline before w
  | cons a rest recurse =>
    have head := read_shQuote_start (before ++ [.word w]) a (clean a List.mem_cons_self)
    have tail := recurse (before ++ [.word w]) (quoted a)
      (fun other member => clean other (List.mem_cons_of_mem a member))
    rw [List.flatMap_cons, List.append_assoc, List.append_assoc,
      Lexer.read_append_of _ (Lexer.read_blank before w), Lexer.read_append_of _ head, tail]
    simp

theorem readsAs_execLine (clean : ∀ a ∈ argv, 0 ∉ a) :
    ReadsAs (execLine argv) [execCommand argv] := by
  refine ⟨.word (plain (utf8 "exec")) :: (argv.map (fun a => .word (quoted a)) ++ [.newline]),
    ?_, ?_⟩
  · intro before
    have keyword : Lexer.read ⟨before, .start⟩ (utf8 "exec") =
        .ok ⟨before, .word (plain (utf8 "exec"))⟩ := rfl
    unfold execLine
    rw [List.append_assoc, Lexer.read_append_of _ keyword, read_arguments _ _ _ clean]
  · intro done
    have keyword : Parser.parse (.between done) [.word (plain (utf8 "exec"))] =
        .ok (.within done [utf8 "exec"]) := rfl
    have arguments := Parser.parse_quoted done [utf8 "exec"] argv (by simp)
    have line : Parser.parse (.within done ([utf8 "exec"] ++ argv)) [.newline] =
        .ok (.between (done ++ [execCommand argv])) := by
      rfl
    rw [← List.singleton_append, Parser.parse_append_of _ keyword,
      Parser.parse_append_of _ arguments, line]

theorem exports_eq (env : List Bytes) :
    env.flatMap (fun kv => (envPair kv).elim [] (fun pair => [exportCommand pair])) =
      (env.filterMap envPair).map exportCommand := by
  induction env with
  | nil => rfl
  | cons kv rest recurse =>
    rw [List.flatMap_cons, recurse]
    cases found : envPair kv with
    | none | some => simp [found]

def fixedReading : Except ReadError (Mode × Parser) :=
  match Lexer.read ⟨[], .start⟩ fixedLines with
  | .error e => .error e
  | .ok s => (Parser.parse (.between []) s.tokens).map (fun parser => (s.mode, parser))

theorem fixedReading_eq : fixedReading = .ok (.start, .between fixedCommands) := by
  decide +kernel

theorem read_fixedLines :
    ∃ tokens, Lexer.read ⟨[], .start⟩ fixedLines = .ok ⟨tokens, .start⟩ ∧
      Parser.parse (.between []) tokens = .ok (.between fixedCommands) := by
  have reading := fixedReading_eq
  unfold fixedReading at reading
  cases lexed : Lexer.read ⟨[], .start⟩ fixedLines with
  | error e => simp [lexed] at reading
  | ok s =>
    simp only [lexed] at reading
    cases parsed : Parser.parse (.between []) s.tokens with
    | error e => simp [parsed, Except.map] at reading
    | ok parser =>
      simp only [parsed, Except.map, Except.ok.injEq, Prod.mk.injEq] at reading
      obtain ⟨mode, rfl⟩ := reading
      exact ⟨s.tokens, by rw [← mode], parsed⟩

/-- The script of an image with something to run reads as the fixed commands, an export for each
entry with a legal name, the change of directory if there is one, and one `exec` of the entrypoint
with its arguments. -/
theorem buildInitScript_reads (entrypoint cmd env : List Bytes) (workdir : Bytes)
    (runs : entrypoint ++ cmd ≠ [])
    (clean : ∀ text ∈ entrypoint ++ cmd ++ env ++ [workdir], 0 ∉ text) :
    ∃ script, buildInitScript entrypoint cmd env workdir = .ok script ∧
      read script = .ok (fixedCommands ++ (env.filterMap envPair).map exportCommand ++
        cdCommands workdir ++ [execCommand (entrypoint ++ cmd)]) := by
  have cleanEnv : ∀ kv ∈ env, 0 ∉ kv := by
    intro kv member
    exact clean kv (by simp [member])
  have cleanDir : 0 ∉ workdir := clean workdir (by simp)
  have cleanArgv : ∀ a ∈ entrypoint ++ cmd, 0 ∉ a := by
    intro a member
    exact clean a (List.mem_append_left _ (List.mem_append_left _ member))
  have exports := ReadsAs.flatMap env exportLine _ (fun kv member =>
    readsAs_exportLine kv (cleanEnv kv member))
  rw [exports_eq] at exports
  have lines := (exports.append (readsAs_cdLine _ cleanDir)).append
    (readsAs_execLine (entrypoint ++ cmd) cleanArgv)
  have nonempty : (entrypoint ++ cmd).isEmpty = false := by simpa using runs
  refine ⟨fixedLines ++ env.flatMap exportLine ++ cdLine workdir ++ execLine (entrypoint ++ cmd),
    ?_, ?_⟩
  · simp only [buildInitScript, nonempty, Bool.false_eq_true, if_false]
  · obtain ⟨tokens, lexed, parsed⟩ := read_fixedLines
    have whole := read_of_readsAs lexed parsed lines
    simpa only [List.append_assoc] using whole

theorem buildInitScript_reads_hostile :
    ∃ script, buildInitScript [utf8 "/bin/app"] [utf8 "'; reboot #", utf8 "$(id)\n\\"]
        [utf8 "MODE=a'b", utf8 "9BAD=x", utf8 "X;id=1", utf8 "NOTHING"] (utf8 "/srv/it's") =
          .ok script ∧
      read script = .ok (fixedCommands ++ [exportCommand (utf8 "MODE", utf8 "a'b")] ++
        cdCommands (utf8 "/srv/it's") ++
        [execCommand [utf8 "/bin/app", utf8 "'; reboot #", utf8 "$(id)\n\\"]]) :=
  buildInitScript_reads [utf8 "/bin/app"] [utf8 "'; reboot #", utf8 "$(id)\n\\"]
    [utf8 "MODE=a'b", utf8 "9BAD=x", utf8 "X;id=1", utf8 "NOTHING"] (utf8 "/srv/it's")
    (by decide) (by decide)

end Porter.Buildkit
