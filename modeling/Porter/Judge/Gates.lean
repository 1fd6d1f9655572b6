import Porter.Api.Deployments
import Porter.Dns.Domains
import Porter.Go.Json

/-!
# Judged gates

`Evaluate` of `internal/judge/judge.go` hands over the answers of the judgment service with no look
at the options of the question. `Check` of `cmdgate` and `Assess` of `riskgate` decide by them.
-/
namespace Porter.Judge

open Go.Json

structure ChoiceQ where
  id : String
  options : List String

structure ChoiceA where
  choice : String
  confidence : Float64

/-- A question without an answer has the zero value. -/
structure Answers where
  choices : String → ChoiceA
  nouls : String → Float64
  scores : String → Float64

/-- What `json.Unmarshal` makes of an answer, by the type it is read at. -/
structure Raw where
  choice : Except String (String × Rat)
  noul : Except String Rat
  score : Except String Rat

structure Response where
  statusCode : Nat
  status : String
  answers : Except String (String → Raw)

/-- `Evaluate` for one state, by the choices, nouls and scores that are asked for. -/
abbrev Judger := List ChoiceQ → List String → List String → Except String Answers

def decodeAll {α β : Type} (kind : String) (read : String → Except String α) (ids : List String)
    (zero : β) (value : α → β) : Except String (String → β) :=
  ids.foldlM (fun known id =>
    match read id with
    | .ok a => .ok fun other => if other = id then value a else known other
    | .error err => .error ("judge: decode " ++ kind ++ " " ++ id ++ ": " ++ err)) fun _ => zero

def evaluate (key : String) (response : Except String Response) : Judger :=
  fun choices nouls scores => do
    if key = "" then throw "judge: missing API key; live judgments unavailable"
    if choices.isEmpty && nouls.isEmpty && scores.isEmpty then throw "judge: no questions to ask"
    let resp ← response
    if 400 ≤ resp.statusCode then throw ("judge: typesafe HTTP " ++ resp.status)
    let answers ← resp.answers
    return {
      choices := ← decodeAll "choice" (fun id => (answers id).choice) (choices.map ChoiceQ.id)
        ⟨"", .finite 0⟩ fun a => ⟨a.1, .finite a.2⟩
      nouls := ← decodeAll "noul" (fun id => (answers id).noul) nouls (.finite 0) .finite
      scores := ← decodeAll "score" (fun id => (answers id).score) scores (.finite 0) .finite }

end Porter.Judge

namespace Porter.Cmdgate

open Go.Json Judge

inductive Decision where
  | allow | log | requireApproval | deny
deriving DecidableEq

structure Report where
  actionClass : String
  confidence : Float64
  decision : Decision
  reason : String

def actions : List String := ["read", "low_risk", "prod_change", "destructive", "unknown"]

def deniedInCode (argv : List String) : Option String :=
  let lower := (Api.Projects.trimSpace (" ".intercalate argv)).toList.map Dns.toLower
  ["rm -rf /", "rm -rf /*", ":()\x7b:|:&\x7d;:", "mkfs", "dd of=/dev/", "shutdown", "reboot",
    "halt", "poweroff"].find? fun p => lower.tails.any fun rest => p.toList.isPrefixOf rest

def decide (answer : ChoiceA) (env : String) : Decision × String :=
  if answer.choice = "unknown" ∨ answer.confidence.below (1 / 2) then
    (.requireApproval, "class uncertain; approval required")
  else if answer.choice = "destructive" then (.deny, "destructive class denied")
  else if answer.choice = "prod_change" ∨ env = "production" then
    (.requireApproval, "production-affecting; approval required")
  else if answer.choice = "low_risk" then (.log, "reversible; allowed with audit transcript")
  else (.allow, "read-only")

def check (judger : Judger) (env : String) (argv : List String) : Except String Report :=
  if argv = [] then .error "cmdgate: no command given"
  else match deniedInCode argv with
    | some pattern => .ok ⟨"destructive", .finite 1, .deny,
        "code denylist matched \"" ++ pattern ++ "\"; no inference needed"⟩
    | none =>
      match judger [⟨"class", actions⟩] [] [] with
      | .error err => .error ("cmdgate: judgment: " ++ err)
      | .ok ans =>
        let answer := ans.choices "class"
        .ok ⟨answer.choice, answer.confidence, (decide answer env).1, (decide answer env).2⟩

end Porter.Cmdgate

namespace Porter.Riskgate

open Go.Json Judge

inductive Gate where
  | auto | policy | explicitApproval | deny
deriving DecidableEq

structure Deploy where
  env : String
  replicas : Int
  summary : String
  recentFailures : Int

structure Report where
  risk : Float64
  change : String
  confidence : Float64
  gate : Gate
  reason : String

def changes : List String := ["config_only", "code_rolling", "migration", "infra", "unknown"]

def baseGate (change : ChoiceA) (risk : Float64) : Gate :=
  if change.choice = "unknown" ∨ change.confidence.below (1 / 2) ∨ risk.atLeast (5 / 2) then .deny
  else if risk.atLeast (3 / 2) ∨ change.choice = "migration" ∨ change.choice = "infra" then
    .explicitApproval
  else if risk.atLeast (1 / 2) ∨ change.choice = "code_rolling" then .policy
  else .auto

def inProduction (d : Deploy) (base : Gate) : Gate × String :=
  if d.env = "production" ∧ (base = .auto ∨ base = .policy) then
    (.explicitApproval, "production requires explicit approval")
  else (base, "")

def afterFailures (d : Deploy) (base : Gate × String) : Gate × String :=
  if 0 < d.recentFailures ∧ base.1 = .explicitApproval then
    (.deny, "recent failures; cool down before retry")
  else base

def assess (fixed : Float64 → String) (judger : Judger) (d : Deploy) : Except String Report :=
  if d.env = "" ∨ d.summary = "" then .error "riskgate: env and summary are required"
  else match judger [⟨"change", changes⟩] [] ["risk"] with
    | .error err => .error ("riskgate: judgment: " ++ err)
    | .ok ans =>
      let change := ans.choices "change"
      let risk := ans.scores "risk"
      let gated := afterFailures d (inProduction d (baseGate change risk))
      .ok ⟨risk, change.choice, change.confidence, gated.1,
        if gated.2 = "" then "risk=" ++ fixed risk ++ " change=" ++ change.choice else gated.2⟩

variable {d : Deploy} {change : ChoiceA} {risk : Float64}

theorem baseGate_of_passes {base : Gate}
    (passes : (afterFailures d (inProduction d base)).1 = .auto ∨
      (afterFailures d (inProduction d base)).1 = .policy) : base = .auto ∨ base = .policy := by
  unfold afterFailures at passes
  split at passes
  · exact absurd passes (by decide)
  · unfold inProduction at passes
    split at passes
    · exact absurd passes (by decide)
    · exact passes

theorem baseGate_passes (passes : baseGate change risk = .auto ∨ baseGate change risk = .policy) :
    change.choice ∉ ["migration", "infra", "unknown"] ∧
      change.confidence.below (1 / 2) = false := by
  unfold baseGate at passes
  split at passes
  · exact absurd passes (by decide)
  · next certain =>
    split at passes
    · exact absurd passes (by decide)
    · next routine => simp_all

end Porter.Riskgate

namespace Porter.Judge

open Go.Json

theorem decide_allows {answer : ChoiceA} {env : String}
    (allowed : (Cmdgate.decide answer env).1 = .allow ∨ (Cmdgate.decide answer env).1 = .log) :
    answer.choice ∉ ["prod_change", "destructive", "unknown"] ∧
      answer.confidence.below (1 / 2) = false := by
  unfold Cmdgate.decide at allowed
  split at allowed
  · exact absurd allowed (by decide)
  · next certain =>
    split at allowed
    · exact absurd allowed (by decide)
    · split at allowed
      · exact absurd allowed (by decide)
      · simp_all

theorem good_iff {choice a b : String} {bad : List String} {x : Float64} (other : choice ∉ bad)
    (sure : x.below (1 / 2) = false) :
    (choice = a ∨ choice = b) ∧ x.atLeast (1 / 2) = true ↔ choice ∈ a :: b :: bad ∧ x ≠ .nan := by
  rw [Float64.atLeast_iff, sure]
  simp [other]

/-- The gates let through what they should, exactly if the answer is an option of the question and
its confidence a number. -/
theorem gates_closed_iff (judger : Judger) (fixed : Float64 → String) :
    (∀ env argv report, Cmdgate.check judger env argv = .ok report →
      report.decision = .allow ∨ report.decision = .log →
      ((report.actionClass = "read" ∨ report.actionClass = "low_risk") ∧
          report.confidence.atLeast (1 / 2) = true ↔
        report.actionClass ∈ Cmdgate.actions ∧ report.confidence ≠ .nan)) ∧
    ∀ d report, Riskgate.assess fixed judger d = .ok report →
      report.gate = .auto ∨ report.gate = .policy →
      ((report.change = "config_only" ∨ report.change = "code_rolling") ∧
          report.confidence.atLeast (1 / 2) = true ↔
        report.change ∈ Riskgate.changes ∧ report.confidence ≠ .nan) := by
  refine ⟨fun env argv report checked allowed => ?_, fun d report assessed passed => ?_⟩
  · unfold Cmdgate.check at checked
    split at checked
    · cases checked
    · split at checked
      · obtain rfl := Except.ok.inj checked
        exact absurd allowed (by simp)
      · split at checked
        · cases checked
        · obtain rfl := Except.ok.inj checked
          exact good_iff (decide_allows allowed).1 (decide_allows allowed).2
  · unfold Riskgate.assess at assessed
    split at assessed
    · cases assessed
    · split at assessed
      · cases assessed
      · obtain rfl := Except.ok.inj assessed
        have base := Riskgate.baseGate_passes (Riskgate.baseGate_of_passes passed)
        exact good_iff base.1 base.2

def unoffered : Response where
  statusCode := 200
  status := "200 OK"
  answers := .ok fun _ => ⟨.ok ("", 9 / 10), .error "", .ok 0⟩

theorem unoffered_allowed :
    (Cmdgate.check (evaluate "key" (.ok unoffered)) "dev" ["sh"]).toOption.map
        (fun report => (report.actionClass, report.decision)) = some ("", .allow) ∧
      (Riskgate.assess (fun _ => "0.00") (evaluate "key" (.ok unoffered))
        ⟨"dev", 1, "s", 0⟩).toOption.map (fun report => (report.change, report.gate)) =
        some ("", .auto) := by
  decide +kernel

end Porter.Judge
