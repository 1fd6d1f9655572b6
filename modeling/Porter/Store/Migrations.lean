import Mathlib.Data.List.Sort
import Mathlib.Data.String.Basic
import Porter.Go.Strings
import Porter.Run.Guarded
import Porter.Run.Interrupted

/-!
# Migrations

`Migrate` and `splitSQL` of `internal/store/store.go`.
-/
namespace Porter.Store.Migrations

open Go Run

structure File where
  name : String
  body : List UInt8

structure Split where
  out : List (List UInt8)
  cur : List UInt8
  inDollar : Bool

def passedOver (t : List UInt8) : Bool := t = [] || hasPrefix t [0x2D, 0x2D]

def splitLine (s : Split) (line : List UInt8) : Split :=
  let t := trimSpace line
  if passedOver t then s
  else
    -- "$$" begins or ends a quoted body.
    let inDollar := if contains t [0x24, 0x24] then !s.inDollar else s.inDollar
    let cur := s.cur ++ line ++ [0x0A]
    -- ";" ends a statement.
    if !inDollar && hasSuffix (trimSpace line) [0x3B] then ⟨s.out ++ [cur], [], inDollar⟩
    else ⟨s.out, cur, inDollar⟩

def splitSQL (body : List UInt8) : List (List UInt8) :=
  let s := (split body 0x0A).foldl splitLine ⟨[], [], false⟩
  if trimSpace s.cur ≠ [] then s.out ++ [s.cur] else s.out

inductive Deed where
  | executed (version : String) (sql : List UInt8)
  | recorded (version : String)
deriving DecidableEq

def Deed.version : Deed → String
  | .executed version _ => version
  | .recorded version => version

structure Logged where
  run : Nat
  deed : Deed

structure Db where
  versions : Option (List String)
  runs : Nat
  log : List Logged

def Db.new : Db := ⟨none, 0, []⟩

variable (version : String)

namespace Db

def createTable (db : Db) : Db := { db with versions := some (db.versions.getD []) }

def applied (db : Db) : Bool := version ∈ db.versions.getD []

def execute (sql : List UInt8) (db : Db) : Db :=
  { db with log := db.log ++ [⟨db.runs, .executed version sql⟩] }

def record (db : Db) : Db :=
  { db with
    versions := some (db.versions.getD [] ++ [version])
    log := db.log ++ [⟨db.runs, .recorded version⟩] }

end Db

variable (files : List File)

def ups : List File :=
  (files.filter fun file => ".up.sql".toList.isSuffixOf file.name.toList).insertionSort
    (·.name ≤ ·.name)

def migrateFile (file : File) : Program Db :=
  .query (Db.applied file.name) fun applied =>
    if applied then .skip
    else
      .seq (.forEach (fun stmt => .exec (Db.execute file.name stmt)) (splitSQL file.body))
        (.exec (Db.record file.name))

def migrate : Program Db :=
  .seq (.exec Db.createTable) (.forEach migrateFile (ups files))

def oneRun (db : Db) (outcomes : List Outcome) : Db :=
  { (migrate files db outcomes).1 with runs := db.runs + 1 }

def history (runs : List (List Outcome)) : Db :=
  run (oneRun files) Db.new runs

variable (log : List Logged)

def statementsOf (run : Nat) (version : String) : List (List UInt8) :=
  log.filterMap fun entry =>
    match entry.deed with
    | .executed of sql => if entry.run = run ∧ of = version then some sql else none
    | .recorded _ => none

/-- All statements were executed in the same run, and the versions before have been recorded. -/
structure Due (files : List File) (before : List Logged) (run : Nat) (version : String) :
    Prop where
  complete : ∃ file ∈ ups files, file.name = version ∧
    statementsOf before run version = splitSQL file.body
  ordered : ∀ file ∈ ups files, file.name < version →
    ∃ earlier, ⟨earlier, .recorded file.name⟩ ∈ before

def Orderly : Prop :=
  ∀ before run version after, log = before ++ ⟨run, .recorded version⟩ :: after →
    Due files before run version ∧ ∀ entry ∈ after, entry.deed.version ≠ version

def Recorded (version : String) : Prop :=
  ∃ run, ⟨run, .recorded version⟩ ∈ log

section Log

variable {files : List File} {log : List Logged}

theorem append_singleton_cases {α : Type} {xs before after : List α} {x y : α}
    (same : xs ++ [x] = before ++ y :: after) :
    (after = [] ∧ before = xs ∧ y = x) ∨
      ∃ tail, after = tail ++ [x] ∧ xs = before ++ y :: tail := by
  rcases List.eq_nil_or_concat after with none | ⟨tail, last, some⟩
  · rw [none] at same
    have ⟨front, back⟩ := List.append_inj' same rfl
    exact Or.inl ⟨none, front.symm, (List.singleton_inj.mp back).symm⟩
  · rw [List.concat_eq_append] at some
    rw [some, ← List.cons_append, ← List.append_assoc] at same
    have ⟨front, back⟩ := List.append_inj' same rfl
    rw [List.singleton_inj.mp back, some]
    exact Or.inr ⟨tail, rfl, front⟩

theorem Orderly.append (orderly : Orderly files log) {entry : Logged}
    (new : ¬Recorded log entry.deed.version)
    (due : ∀ version, entry.deed = .recorded version → Due files log entry.run version) :
    Orderly files (log ++ [entry]) := by
  intro before run version after split
  rcases append_singleton_cases split with ⟨none, front, last⟩ | ⟨tail, some, front⟩
  · rw [none, front]
    rw [← last] at due
    exact ⟨due version rfl, nofun⟩
  · have ⟨justified, later⟩ := orderly before run version tail front
    refine ⟨justified, ?_⟩
    rw [some]
    intro other member
    rcases List.mem_append.mp member with old | last
    · exact later other old
    · rw [List.mem_singleton.mp last]
      intro same
      refine new ⟨run, ?_⟩
      rw [same, front]
      exact List.mem_append_right _ List.mem_cons_self

theorem recorded_append {entries : List Logged} {version : String}
    (recorded : Recorded log version) : Recorded (log ++ entries) version := by
  have ⟨run, member⟩ := recorded
  exact ⟨run, List.mem_append_left _ member⟩

theorem recorded_append_singleton {entry : Logged} {version : String} :
    Recorded (log ++ [entry]) version ↔
      Recorded log version ∨ entry.deed = .recorded version := by
  constructor
  · intro ⟨run, member⟩
    rcases List.mem_append.mp member with old | new
    · exact Or.inl ⟨run, old⟩
    · rw [← List.mem_singleton.mp new]
      exact Or.inr rfl
  · intro either
    rcases either with old | new
    · exact recorded_append old
    · exact ⟨entry.run, List.mem_append_right _ (by rw [← new]; exact List.mem_cons_self)⟩

theorem statementsOf_append (log entries : List Logged) (run : Nat) (version : String) :
    statementsOf (log ++ entries) run version =
      statementsOf log run version ++ statementsOf entries run version :=
  List.filterMap_append

theorem statementsOf_eq_nil {run : Nat} {version : String}
    (none : ∀ entry ∈ log, entry.run = run → entry.deed.version ≠ version) :
    statementsOf log run version = [] := by
  unfold statementsOf
  rw [List.filterMap_eq_nil_iff]
  intro entry member
  have other := none entry member
  split
  · next of sql same =>
    rw [if_neg]
    intro here
    refine other here.1 ?_
    rw [same]
    exact here.2
  · rfl

end Log

structure Sound (files : List File) (run : Nat) (db : Db) : Prop where
  tabled : ∀ version, version ∈ db.versions.getD [] ↔ Recorded db.log version
  orderly : Orderly files db.log
  past : ∀ entry ∈ db.log, entry.run ≤ run
  runs : db.runs = run

structure Reached (files : List File) (run : Nat) (done : List File) (db : Db) : Prop
    extends Sound files run db where
  recorded : ∀ file ∈ done, Recorded db.log file.name
  current : ∀ entry ∈ db.log, entry.run = run → ∃ file ∈ done, entry.deed.version = file.name

structure Applying (files : List File) (run : Nat) (done : List File) (file : File)
    (stmts : List (List UInt8)) (db : Db) : Prop extends Sound files run db where
  recorded : ∀ earlier ∈ done, Recorded db.log earlier.name
  unrecorded : ¬Recorded db.log file.name
  executed : statementsOf db.log run file.name = stmts
  current : ∀ entry ∈ db.log, entry.run = run →
    (∃ earlier ∈ done, entry.deed.version = earlier.name) ∨ entry.deed.version = file.name

section Run

variable {files : List File} {run : Nat} {db : Db} {done : List File} {file : File}

theorem past_append (sound : Sound files run db) (deed : Deed) :
    ∀ entry ∈ db.log ++ [⟨db.runs, deed⟩], entry.run ≤ run := by
  intro entry member
  rcases List.mem_append.mp member with old | new
  · exact sound.past entry old
  · rw [List.mem_singleton.mp new]
    exact Nat.le_of_eq sound.runs

theorem Sound.execute (sound : Sound files run db) {version : String}
    (unrecorded : ¬Recorded db.log version) (sql : List UInt8) :
    Sound files run (db.execute version sql) where
  tabled := by
    intro other
    show other ∈ db.versions.getD [] ↔ Recorded (db.log ++ [_]) other
    rw [recorded_append_singleton, sound.tabled]
    exact (or_iff_left nofun).symm
  orderly := sound.orderly.append unrecorded nofun
  past := past_append sound _
  runs := sound.runs

theorem Sound.record (sound : Sound files run db) {version : String}
    (unrecorded : ¬Recorded db.log version) (due : Due files db.log run version) :
    Sound files run (db.record version) where
  tabled := by
    intro other
    show other ∈ db.versions.getD [] ++ [version] ↔ Recorded (db.log ++ [_]) other
    rw [recorded_append_singleton, List.mem_append, sound.tabled, List.mem_singleton,
      Deed.recorded.injEq, eq_comm]
  orderly := by
    refine sound.orderly.append unrecorded ?_
    intro other same
    rw [sound.runs, ← Deed.recorded.inj same]
    exact due
  past := past_append sound _
  runs := sound.runs

theorem Applying.execute {stmts : List (List UInt8)}
    (applying : Applying files run done file stmts db) (sql : List UInt8) :
    Applying files run done file (stmts ++ [sql]) (db.execute file.name sql) where
  toSound := applying.toSound.execute applying.unrecorded sql
  recorded := fun earlier member => recorded_append (applying.recorded earlier member)
  unrecorded := by
    intro recorded
    rcases recorded_append_singleton.mp recorded with old | same
    · exact applying.unrecorded old
    · exact nomatch same
  executed := by
    show statementsOf (db.log ++ [⟨db.runs, .executed file.name sql⟩]) run file.name = _
    rw [statementsOf_append, applying.executed, applying.runs]
    simp [statementsOf]
  current := by
    intro entry member here
    rcases List.mem_append.mp member with old | new
    · exact applying.current entry old here
    · rw [List.mem_singleton.mp new]
      exact Or.inr rfl

theorem ups_sorted (files : List File) : (ups files).Pairwise (·.name ≤ ·.name) := by
  exact List.pairwise_insertionSort _ _

variable {rest : List File}

theorem mem_of_lt (split : ups files = done ++ file :: rest) {other : File}
    (member : other ∈ ups files) (smaller : other.name < file.name) : other ∈ done := by
  have sorted := ups_sorted files
  rw [split] at member sorted
  rcases List.mem_append.mp member with before | after
  · exact before
  · have least := (List.pairwise_append.mp sorted).2.1
    rcases List.mem_cons.mp after with same | later
    · rw [same] at smaller
      exact absurd smaller (lt_irrefl _)
    · exact absurd ((List.pairwise_cons.mp least).1 other later) (not_le.mpr smaller)

theorem Applying.record (split : ups files = done ++ file :: rest)
    (applying : Applying files run done file (splitSQL file.body) db) :
    Reached files run (done ++ [file]) (db.record file.name) where
  toSound := by
    refine applying.toSound.record applying.unrecorded ⟨⟨file, ?_, rfl, applying.executed⟩, ?_⟩
    · rw [split]
      exact List.mem_append_right _ List.mem_cons_self
    · intro other member smaller
      exact applying.recorded other (mem_of_lt split member smaller)
  recorded := by
    intro earlier member
    apply recorded_append_singleton.mpr
    rcases List.mem_append.mp member with old | last
    · exact Or.inl (applying.recorded earlier old)
    · rw [List.mem_singleton.mp last]
      exact Or.inr rfl
  current := by
    intro entry member here
    rcases List.mem_append.mp member with old | new
    · rcases applying.current entry old here with ⟨earlier, before, same⟩ | same
      · exact ⟨earlier, List.mem_append_left _ before, same⟩
      · exact ⟨file, List.mem_append_right _ List.mem_cons_self, same⟩
    · rw [List.mem_singleton.mp new]
      exact ⟨file, List.mem_append_right _ List.mem_cons_self, rfl⟩

theorem Reached.skip (reached : Reached files run done db) (applied : db.applied file.name = true) :
    Reached files run (done ++ [file]) db where
  toSound := reached.toSound
  recorded := by
    intro earlier member
    rcases List.mem_append.mp member with old | last
    · exact reached.recorded earlier old
    · rw [List.mem_singleton.mp last]
      exact (reached.tabled file.name).mp (of_decide_eq_true applied)
  current := by
    intro entry member here
    have ⟨earlier, before, same⟩ := reached.current entry member here
    exact ⟨earlier, List.mem_append_left _ before, same⟩

theorem Reached.applying (reached : Reached files run done db)
    (missing : db.applied file.name = false) : Applying files run done file [] db := by
  have unrecorded : ¬Recorded db.log file.name := by
    rw [← reached.tabled]
    exact of_decide_eq_false missing
  refine ⟨reached.toSound, reached.recorded, unrecorded, ?_, ?_⟩
  · apply statementsOf_eq_nil
    intro entry member here same
    have ⟨earlier, before, other⟩ := reached.current entry member here
    refine unrecorded ?_
    rw [← same, other]
    exact reached.recorded earlier before
  · intro entry member here
    exact Or.inl (reached.current entry member here)

theorem migrateFile_triple (split : ups files = done ++ file :: rest) :
    Program.Triple (Reached files run done) (migrateFile file)
      (Reached files run (done ++ [file])) (Sound files run) := by
  apply Program.Triple.query fun _ reached => reached.toSound
  intro applied
  cases applied with
  | true =>
    exact (Program.Triple.skip fun _ reached => reached.1.toSound).weaken (fun _ given => given)
      fun _ given => given.1.skip given.2
  | false =>
    have statements : Program.Triple (fun db => Reached files run done db ∧
        db.applied file.name = false)
        (.forEach (fun stmt => .exec (Db.execute file.name stmt)) (splitSQL file.body))
        (Applying files run done file (splitSQL file.body)) (Sound files run) := by
      apply (Program.Triple.forEach (Applying files run done file)
        (fun _ _ applying => applying.toSound) ?_).weaken
        (fun _ given => given.1.applying given.2) (fun _ given => given)
      intro stmts sql rest _
      refine Program.Triple.exec (fun _ applying => applying.toSound) ?_
      intro db applying
      have next := applying.execute sql
      exact ⟨next.toSound, next⟩
    refine statements.seq (Program.Triple.exec (fun _ applying => applying.toSound) ?_)
    intro db applying
    have next := applying.record split
    exact ⟨next.toSound, next⟩

theorem migrate_triple (files : List File) (run : Nat) :
    Program.Triple (fun db => Sound files run db ∧ ∀ entry ∈ db.log, entry.run < run)
      (migrate files) (Reached files run (ups files)) (Sound files run) := by
  have created : ∀ db, Sound files run db → Sound files run db.createTable :=
    fun db sound => ⟨sound.tabled, sound.orderly, sound.past, sound.runs⟩
  have loop : Program.Triple (Reached files run []) (.forEach migrateFile (ups files))
      (Reached files run (ups files)) (Sound files run) :=
    Program.Triple.forEach (Reached files run) (fun _ _ reached => reached.toSound)
      fun _ _ _ split => migrateFile_triple split
  refine (Program.Triple.exec (fun _ given => given.1) ?_).seq loop
  intro db given
  refine ⟨created db given.1, created db given.1, fun _ member => (nomatch member), ?_⟩
  intro entry member here
  exact absurd here (Nat.ne_of_lt (given.2 entry member))

end Run

structure Rested (files : List File) (db : Db) : Prop where
  sound : Sound files db.runs db
  past : ∀ entry ∈ db.log, entry.run < db.runs

theorem Rested.oneRun {files : List File} {db : Db} (rested : Rested files db)
    (outcomes : List Outcome) : Rested files (oneRun files db outcomes) := by
  have result := (migrate_triple files db.runs db outcomes ⟨rested.sound, rested.past⟩).1
  have past : ∀ entry ∈ (migrate files db outcomes).1.log, entry.run < db.runs + 1 :=
    fun entry member => Nat.lt_succ_of_le (result.past entry member)
  exact ⟨⟨result.tabled, result.orderly, fun entry member => Nat.le_of_lt (past entry member),
    rfl⟩, past⟩

theorem rested_history (runs : List (List Outcome)) : Rested files (history files runs) := by
  apply run_preserved (oneRun files) (Rested files) fun _ outcomes rested => rested.oneRun outcomes
  refine ⟨⟨?_, ?_, fun _ member => (nomatch member), rfl⟩, fun _ member => (nomatch member)⟩
  · intro version
    exact iff_of_false List.not_mem_nil fun recorded => nomatch recorded.choose_spec
  · intro before run version after none
    exact absurd none.symm (List.append_ne_nil_of_right_ne_nil _ (List.cons_ne_nil _ _))

/-- However the runs before ended, a version in `schema_migrations` was recorded when its statements
had been executed in file order in one run and all versions before it were recorded, and nothing was
executed for it later. -/
theorem history_orderly (files : List File) (runs : List (List Outcome)) :
    (∀ version, version ∈ (history files runs).versions.getD [] ↔
      Recorded (history files runs).log version) ∧
    Orderly files (history files runs).log :=
  ⟨(rested_history files runs).sound.tabled, (rested_history files runs).sound.orderly⟩

def Settled (files : List File) (log : List Logged) (db : Db) : Prop :=
  db.log = log ∧ ∀ file ∈ ups files, db.applied file.name = true

theorem migrate_settled (files : List File) (log : List Logged) :
    Program.Triple (Settled files log) (migrate files) (Settled files log) (Settled files log) := by
  have created : ∀ db, Settled files log db → Settled files log db.createTable := fun _ => id
  refine (Program.Triple.exec (fun _ => id) fun db settled =>
    ⟨created db settled, created db settled⟩).seq
      (Program.Triple.forEach (fun _ => Settled files log) (fun _ _ => id) ?_)
  intro done file rest split
  have listed : file ∈ ups files := by
    rw [split]
    exact List.mem_append_right _ List.mem_cons_self
  refine Program.Triple.query (fun _ settled => settled) fun applied => ?_
  cases applied with
  | true =>
    exact (Program.Triple.skip fun _ given => given.1).weaken (fun _ given => given)
      fun _ given => given.1
  | false =>
    intro db outcomes given
    exact absurd (given.1.2 file listed) (by simp [given.2])

/-- A run that comes through has recorded every version, and no later run, however it ends, executes
or records anything. -/
theorem history_settled (files : List File) (runs later : List (List Outcome))
    (outcomes : List Outcome)
    (through : (migrate files (history files runs) outcomes).2.isSome = true) :
    let db := oneRun files (history files runs) outcomes
    (∀ file ∈ ups files, file.name ∈ (run (oneRun files) db later).versions.getD []) ∧
      (run (oneRun files) db later).log = db.log := by
  intro db
  have rested := rested_history files runs
  have reached := (migrate_triple files _ _ outcomes ⟨rested.sound, rested.past⟩).2 through
  have settled : Settled files db.log db := ⟨rfl, fun file listed =>
    decide_eq_true ((reached.tabled _).mpr (reached.recorded file listed))⟩
  have kept := run_preserved (oneRun files) (Settled files db.log)
    (fun db outcomes settled => (migrate_settled files _ db outcomes settled).1) db later settled
  exact ⟨fun file listed => of_decide_eq_true (kept.2 file listed), kept.1⟩

theorem history_settled_once :
    let files : List File := [⟨"1.up.sql", []⟩]
    let db := oneRun files (history files [[]]) [.ok, .ok, .ok]
    (run (oneRun files) db [[.ok], [.ok, .ok]]).log = db.log :=
  (history_settled _ _ _ _ (by decide +kernel)).2

/-- Whether a text ends in a body between two "$$", and what follows each semicolon outside them. -/
def readDollars : Bool → List UInt8 → Bool × List (List UInt8)
  | inBody, [] => (inBody, [])
  | inBody, 0x24 :: 0x24 :: rest => readDollars (!inBody) rest
  | inBody, b :: rest => ((readDollars inBody rest).1,
      if b = 0x3B ∧ inBody = false then rest :: (readDollars inBody rest).2
      else (readDollars inBody rest).2)

def readLine (inBody : Bool) (line : List UInt8) : Bool × List (List UInt8) :=
  if !inBody && passedOver (trimSpace line) then (false, []) else readDollars inBody line

/-- Every semicolon outside bodies is at the end of its line. -/
def EndsLines : Bool → List (List UInt8) → Prop
  | _, [] => True
  | inBody, line :: lines => (∀ rest ∈ (readLine inBody line).2, trimSpace rest = []) ∧
      EndsLines (readLine inBody line).1 lines

/-- After each line the flag says whether the text is in a body. -/
def Tracked : Bool → List (List UInt8) → Prop
  | _, [] => True
  | inBody, line :: lines => (readLine inBody line).1 = (splitLine ⟨[], [], inBody⟩ line).inDollar ∧
      Tracked (readLine inBody line).1 lines

def keptLines (lines : List (List UInt8)) : List (List UInt8) :=
  lines.filter fun line => !passedOver (trimSpace line)

def joinLines (lines : List (List UInt8)) : List UInt8 := lines.flatMap (· ++ [0x0A])

variable {inBody : Bool} {text line rest : List UInt8}

theorem readDollars_append {more : List UInt8}
    (apart : more.head? = some 0x24 → text.getLast? ≠ some 0x24) :
    readDollars inBody (text ++ more) = ((readDollars (readDollars inBody text).1 more).1,
      (readDollars inBody text).2.map (· ++ more) ++
        (readDollars (readDollars inBody text).1 more).2) := by
  have later : ∀ {b : UInt8} {rest : List UInt8}, (more.head? = some 0x24 →
      (b :: rest).getLast? ≠ some 0x24) → more.head? = some 0x24 → rest.getLast? ≠ some 0x24 := by
    intro b rest ends begins last
    exact ends begins (by simp [List.getLast?_cons, last])
  fun_induction readDollars inBody text with
  | case1 => rfl
  | case2 inBody rest recurse => exact recurse (later (later apart))
  | case3 inBody b rest other recurse =>
    have next : ∀ tail, b = 0x24 → rest ++ more = 0x24 :: tail → False := by
      intro tail dollar same
      cases rest with
      | nil => exact apart (by rw [← List.nil_append more, same]; rfl) (by rw [dollar]; rfl)
      | cons c rest => exact other rest dollar (by rw [(List.cons.inj same).1])
    rw [List.cons_append, readDollars.eq_3 _ _ _ next, recurse (later apart)]
    split
    · rfl
    · rfl

theorem readDollars_semicolon (ends : rest ∈ (readDollars inBody text).2) :
    (∃ front, text = front ++ 0x3B :: rest) ∧
      ((readDollars inBody text).1 = (readDollars false rest).1) := by
  fun_induction readDollars inBody text with
  | case1 => exact absurd ends List.not_mem_nil
  | case2 inBody more recurse =>
    obtain ⟨⟨front, same⟩, after⟩ := recurse ends
    exact ⟨⟨0x24 :: 0x24 :: front, by rw [same]; rfl⟩, after⟩
  | case3 inBody b more other recurse =>
    dsimp only at ends
    split at ends
    · next here =>
      obtain ⟨rfl, rfl⟩ := here
      rcases List.mem_cons.mp ends with rfl | later
      · exact ⟨⟨[], rfl⟩, rfl⟩
      · obtain ⟨⟨front, same⟩, after⟩ := recurse later
        exact ⟨⟨0x3B :: front, by rw [same]; rfl⟩, after⟩
    · obtain ⟨⟨front, same⟩, after⟩ := recurse ends
      exact ⟨⟨b :: front, by rw [same]; rfl⟩, after⟩

theorem readDollars_blank (blank : trimSpace text = []) : (readDollars inBody text).1 = inBody := by
  have solid : Solid 0x24 := by
    unfold Solid
    decide +kernel
  have absent := (trimSpace_eq_nil_iff.mp blank).not_mem solid
  clear blank
  fun_induction readDollars inBody text with
  | case1 => rfl
  | case2 => exact absurd List.mem_cons_self absent
  | case3 inBody b more other recurse => exact recurse (List.not_mem_of_not_mem_cons absent)

theorem endless (ended : ∀ rest ∈ (readDollars inBody line).2, trimSpace rest = [])
    (kept : ¬((readDollars inBody line).1 = false ∧ hasSuffix (trimSpace line) [0x3B] = true)) :
    (readDollars inBody line).2 = [] := by
  have solid : Solid 0x3B := by
    unfold Solid
    decide +kernel
  rw [List.eq_nil_iff_forall_not_mem]
  intro rest member
  obtain ⟨⟨front, same⟩, after⟩ := readDollars_semicolon member
  have blank := ended rest member
  exact kept ⟨after.trans (readDollars_blank blank), same ▸ hasSuffix_trimSpace solid blank⟩

structure Sorted (s : Split) : Prop where
  alone : ∀ piece ∈ s.out, (readDollars false piece).1 = false ∧
    ∀ rest ∈ (readDollars false piece).2, trimSpace rest = []
  rest : readDollars false s.cur = (s.inDollar, [])
  filled : s.cur = [] ∨ s.cur.getLast? = some 0x0A ∧
    ∃ line rest, s.cur = line ++ 0x0A :: rest ∧ trimSpace line ≠ []

variable {s : Split}

theorem Sorted.splitLine (sorted : Sorted s) (kept : passedOver (trimSpace line) = false)
    (ended : ∀ rest ∈ (readDollars s.inDollar line).2, trimSpace rest = [])
    (toggled : (readDollars s.inDollar line).1 =
      if contains (trimSpace line) [0x24, 0x24] then !s.inDollar else s.inDollar) :
    Sorted (splitLine s line) := by
  have ends : (readDollars s.inDollar (line ++ [0x0A])) =
      ((readDollars s.inDollar line).1, (readDollars s.inDollar line).2.map (· ++ [0x0A])) := by
    rw [readDollars_append (by simp)]
    simp [readDollars]
  have whole : readDollars false (s.cur ++ line ++ [0x0A]) =
      ((readDollars s.inDollar line).1, (readDollars s.inDollar line).2.map (· ++ [0x0A])) := by
    have apart : (line ++ [0x0A]).head? = some 0x24 → s.cur.getLast? ≠ some 0x24 := by
      rcases sorted.filled with none | ⟨last, _⟩
      · simp [none]
      · simp [last]
    rw [List.append_assoc, readDollars_append apart, sorted.rest, ends]
    rfl
  unfold Migrations.splitLine
  simp only [kept, Bool.false_eq_true, if_false, ← toggled]
  split
  · next put =>
    rw [Bool.and_eq_true, Bool.not_eq_true'] at put
    refine ⟨?_, by simp [put.1, readDollars], Or.inl rfl⟩
    intro piece member
    rcases List.mem_append.mp member with old | new
    · exact sorted.alone piece old
    · rw [List.mem_singleton.mp new, whole]
      refine ⟨put.1, ?_⟩
      intro rest member
      obtain ⟨before, listed, rfl⟩ := List.mem_map.mp member
      have blank := trimSpace_eq_nil_iff.mp (ended before listed)
      have newline : [0x0A] ∈ spaces := by decide
      exact trimSpace_eq_nil_iff.mpr (blank.append (.cons newline .nil))
  · next put =>
    rw [Bool.and_eq_true, Bool.not_eq_true'] at put
    have none := endless ended put
    rw [none] at whole
    refine ⟨sorted.alone, whole, Or.inr ⟨by simp, ?_⟩⟩
    rcases sorted.filled with empty | ⟨_, first, rest, same, filled⟩
    · refine ⟨line, [], by simp [empty], ?_⟩
      intro blank
      simp [passedOver, blank] at kept
    · exact ⟨first, rest ++ line ++ [0x0A], by simp [same], filled⟩

theorem splitLine_passed (passed : passedOver (trimSpace line) = true) :
    Migrations.splitLine s line = s := by
  unfold Migrations.splitLine
  simp [passed]

theorem inDollar_splitLine (kept : passedOver (trimSpace line) = false) :
    (Migrations.splitLine s line).inDollar =
      if contains (trimSpace line) [0x24, 0x24] then !s.inDollar else s.inDollar := by
  unfold Migrations.splitLine
  simp only [kept, Bool.false_eq_true, if_false, apply_ite Split.inDollar, ite_self]

theorem Sorted.foldl (sorted : Sorted s) {lines : List (List UInt8)}
    (ended : EndsLines s.inDollar lines) (tracked : Tracked s.inDollar lines) :
    Sorted (lines.foldl Migrations.splitLine s) := by
  induction lines generalizing s with
  | nil => exact sorted
  | cons line lines recurse =>
    rw [List.foldl_cons]
    obtain ⟨first, others⟩ := tracked
    obtain ⟨ended, later⟩ := ended
    cases kept : passedOver (trimSpace line) with
    | true =>
      rw [splitLine_passed kept] at first ⊢
      rw [first] at others later
      exact recurse sorted later others
    | false =>
      have read : readLine s.inDollar line = readDollars s.inDollar line := by
        simp [readLine, kept]
      rw [inDollar_splitLine kept, read] at first
      rw [read] at ended later others
      have state : (Migrations.splitLine s line).inDollar = _ :=
        (inDollar_splitLine kept).trans first.symm
      exact recurse (sorted.splitLine kept ended first) (state ▸ later) (state ▸ others)

theorem flatten_foldl (lines : List (List UInt8)) (s : Split) :
    (lines.foldl Migrations.splitLine s).out.flatten ++ (lines.foldl Migrations.splitLine s).cur =
      s.out.flatten ++ s.cur ++ joinLines (keptLines lines) := by
  induction lines generalizing s with
  | nil => simp [joinLines, keptLines]
  | cons line lines recurse =>
    rw [List.foldl_cons, recurse]
    unfold Migrations.splitLine
    cases kept : passedOver (trimSpace line) with
    | true => simp [keptLines, kept]
    | false =>
      simp only [kept, Bool.false_eq_true, if_false]
      split <;> split <;> simp [keptLines, joinLines, kept]

end Porter.Store.Migrations
