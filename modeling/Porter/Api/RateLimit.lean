import Mathlib.Algebra.Order.Ring.Int
import Porter.Go.Heap
import Porter.Go.Net

/-!
# The request cap

`allowRate` of `internal/api/api.go`: a counter for each client IP with the time at which it starts
again.
-/
namespace Porter.Api

open Go

structure RateEntry where
  count : Int64
  reset : Int

def minute : Int := 60000000000

variable (client : String)

def rateKey : String :=
  match splitHostPort client with
  | some (h, _) => h
  | none => client

structure RateCall where
  client : String
  now : Int

variable (rateLimit : Int64)

def allowRate (rate : GoMap String RateEntry) (call : RateCall) : GoMap String RateEntry × Bool :=
  let ip := rateKey call.client
  match rate.find ip with
  | none => (rate.set (ip, ⟨1, call.now + minute⟩), true)
  | some (_, e) =>
    if call.now > e.reset then (rate.set (ip, ⟨1, call.now + minute⟩), true)
    else
      let count := e.count + 1
      if count > rateLimit then (rate, false) else (rate.set (ip, ⟨count, e.reset⟩), true)

def admitted (rateLimit : Int64) (rate : GoMap String RateEntry) : List RateCall → List RateCall
  | [] => []
  | call :: rest =>
    let later := admitted rateLimit (allowRate rateLimit rate call).1 rest
    if (allowRate rateLimit rate call).2 then call :: later else later

def within (ip : String) (start : Int) (calls : List RateCall) : List RateCall :=
  calls.filter fun call => rateKey call.client = ip ∧ start ≤ call.now ∧ call.now ≤ start + minute

def Capped : Prop :=
  ∀ calls : List RateCall, calls.Pairwise (fun earlier later => earlier.now ≤ later.now) →
    ∀ (ip : String) (start : Int),
      ((within ip start (admitted rateLimit GoMap.nil calls)).length : Int) ≤ rateLimit.toInt

def entryOf (rate : GoMap String RateEntry) (ip : String) : Option RateEntry :=
  (rate.find ip).map Prod.snd

def turn (now : Int) : Option RateEntry → RateEntry × Bool
  | none => (⟨1, now + minute⟩, true)
  | some e =>
    if now > e.reset then (⟨1, now + minute⟩, true)
    else if e.count + 1 > rateLimit then (e, false)
    else (⟨e.count + 1, e.reset⟩, true)

section Calls

variable {rateLimit : Int64} {rate : GoMap String RateEntry} {call : RateCall} {ip : String}

theorem entryOf_set_self (rate : GoMap String RateEntry) (ip : String) (e : RateEntry) :
    entryOf (rate.set (ip, e)) ip = some e := by
  unfold entryOf
  rw [GoMap.find_set_self _ (ip, e)]
  rfl

theorem allowRate_eq (rateLimit : Int64) (rate : GoMap String RateEntry) (call : RateCall) :
    allowRate rateLimit rate call =
      (if (turn rateLimit call.now (entryOf rate (rateKey call.client))).2 then
          rate.set (rateKey call.client,
            (turn rateLimit call.now (entryOf rate (rateKey call.client))).1)
        else rate,
        (turn rateLimit call.now (entryOf rate (rateKey call.client))).2) := by
  cases found : rate.find (rateKey call.client) with
  | none => simp only [allowRate, entryOf, found, turn, Option.map_none, if_true]
  | some pair =>
    simp only [allowRate, entryOf, found, turn, Option.map_some]
    by_cases expired : call.now > pair.2.reset
    · simp only [expired, if_true]
    · by_cases full : pair.2.count + 1 > rateLimit
      · simp only [expired, full, if_true, if_false, Bool.false_eq_true]
      · simp only [expired, full, if_true, if_false]

theorem turn_refused {now : Int} {entry : Option RateEntry}
    (refused : (turn rateLimit now entry).2 = false) :
    some (turn rateLimit now entry).1 = entry := by
  unfold turn at refused ⊢
  cases entry with
  | none => contradiction
  | some e =>
    simp only at refused ⊢
    split at refused
    · contradiction
    · split at refused
      · next current full => rw [if_neg current, if_pos full]
      · contradiction

theorem allowRate_self (rateLimit : Int64) (rate : GoMap String RateEntry)
    (same : rateKey call.client = ip) :
    entryOf (allowRate rateLimit rate call).1 ip =
        some (turn rateLimit call.now (entryOf rate ip)).1 ∧
      (allowRate rateLimit rate call).2 = (turn rateLimit call.now (entryOf rate ip)).2 := by
  rw [allowRate_eq, same]
  refine ⟨?_, rfl⟩
  split
  · exact entryOf_set_self _ _ _
  · next refused => exact (turn_refused (Bool.eq_false_iff.mpr refused)).symm

theorem allowRate_of_ne (apart : rateKey call.client ≠ ip) :
    entryOf (allowRate rateLimit rate call).1 ip = entryOf rate ip := by
  rw [allowRate_eq]
  split
  · unfold entryOf
    rw [GoMap.find_set_of_ne _ _ (fun same => apart same.symm)]
  · rfl

theorem mem_of_mem_admitted {calls : List RateCall}
    (member : call ∈ admitted rateLimit rate calls) : call ∈ calls := by
  induction calls generalizing rate with
  | nil => exact member
  | cons first rest ih =>
    unfold admitted at member
    split at member
    · rcases List.mem_cons.mp member with same | later
      · rw [same]
        exact List.mem_cons_self
      · exact List.mem_cons_of_mem _ (ih later)
    · exact List.mem_cons_of_mem _ (ih member)

theorem admitted_filter_of_agree {alone : GoMap String RateEntry}
    (agree : entryOf rate ip = entryOf alone ip) (calls : List RateCall) :
    (admitted rateLimit rate calls).filter (rateKey ·.client = ip) =
      admitted rateLimit alone (calls.filter (rateKey ·.client = ip)) := by
  induction calls generalizing rate alone with
  | nil => rfl
  | cons call rest recurse =>
    by_cases same : rateKey call.client = ip
    · obtain ⟨entry, answer⟩ := allowRate_self rateLimit rate same
      obtain ⟨aloneEntry, aloneAnswer⟩ := allowRate_self rateLimit alone same
      rw [agree, ← aloneEntry] at entry
      rw [agree, ← aloneAnswer] at answer
      rw [List.filter_cons_of_pos (by simpa using same), admitted, admitted, answer,
        ← recurse entry]
      split
      · exact List.filter_cons_of_pos (by simpa using same)
      · rfl
    · have kept : entryOf (allowRate rateLimit rate call).1 ip = entryOf alone ip :=
        (allowRate_of_ne same).trans agree
      rw [List.filter_cons_of_neg (by simpa using same), admitted]
      split
      · rw [List.filter_cons_of_neg (by simpa using same), recurse kept]
      · exact recurse kept

/-- The calls of one address are answered as if no other address made any. -/
theorem admitted_address (rateLimit : Int64) (rate : GoMap String RateEntry)
    (calls : List RateCall) (ip : String) :
    (admitted rateLimit rate calls).filter (rateKey ·.client = ip) =
      admitted rateLimit rate (calls.filter (rateKey ·.client = ip)) :=
  admitted_filter_of_agree rfl calls

end Calls

theorem toInt_add_one {n : Int64} (below : n.toInt < 2 ^ 63 - 1) : (n + 1).toInt = n.toInt + 1 := by
  have low := n.le_toInt
  rw [Int64.toInt_add, Int64.toInt_one]
  apply Int.bmod_eq_of_le
  · omega
  · omega

variable (limit : Int)

/-- How many calls can return true in a minute: a window that ends in it can be followed by a full
one, and one that ends after it is the last. -/
def room (start : Int) : Option RateEntry → Int
  | none => 2 * limit - 1
  | some e =>
    if e.reset < start then 2 * limit - 1
    else if e.reset < start + minute then 2 * limit - e.count.toInt
    else limit - e.count.toInt

def Counted (entry : Option RateEntry) : Prop :=
  ∀ e, entry = some e → 1 ≤ e.count.toInt ∧ e.count.toInt ≤ limit

section Room

variable {rateLimit : Int64} {entry : Option RateEntry} {start now : Int}

theorem room_nonneg {limit : Int} (positive : 1 ≤ limit) (counted : Counted limit entry) :
    0 ≤ room limit start entry := by
  cases entry with
  | none =>
    simp only [room]
    omega
  | some e =>
    have ⟨_, _⟩ := counted e rfl
    simp only [room]
    split
    · omega
    · split
      · omega
      · omega

theorem room_opened (start now : Int) :
    room limit start (some ⟨1, now + minute⟩) + (if start ≤ now then 1 else 0) ≤
      if start ≤ now then limit else 2 * limit - 1 := by
  have one : (1 : Int64).toInt = 1 := rfl
  have long : 0 < minute := by decide
  simp only [room, one]
  by_cases inside : start ≤ now
  · omega
  · split
    · omega
    · omega

variable {e : RateEntry}

theorem room_counted (start : Int) {next : RateEntry} (reset : next.reset = e.reset)
    (count : next.count.toInt = e.count.toInt + 1) (current : now ≤ e.reset) :
    room limit start (some next) + (if start ≤ now then 1 else 0) ≤ room limit start (some e) := by
  simp only [room, reset, count]
  by_cases past : e.reset < start
  · omega
  · split
    · omega
    · omega

theorem turn_next (current : ¬now > e.reset) (free : ¬e.count + 1 > rateLimit) :
    turn rateLimit now (some e) = (⟨e.count + 1, e.reset⟩, true) := by
  simp only [turn, if_neg current, if_neg free]

theorem turn_full (current : ¬now > e.reset) (full : e.count + 1 > rateLimit) :
    turn rateLimit now (some e) = (e, false) := by
  simp only [turn, if_neg current, if_pos full]

theorem turn_expired (expired : now > e.reset) :
    turn rateLimit now (some e) = (⟨1, now + minute⟩, true) := by
  simp only [turn, if_pos expired]

theorem room_turn (positive : 1 ≤ rateLimit.toInt) (below : rateLimit.toInt < 2 ^ 63 - 1)
    (counted : Counted rateLimit.toInt entry) (early : now ≤ start + minute) :
    room rateLimit.toInt start (some (turn rateLimit now entry).1) +
        (if (turn rateLimit now entry).2 = true ∧ start ≤ now then 1 else 0) ≤
          room rateLimit.toInt start entry := by
  have opened := room_opened rateLimit.toInt start now
  cases entry with
  | none =>
    simp only [turn, true_and]
    have all : room rateLimit.toInt start none = 2 * rateLimit.toInt - 1 := rfl
    split at opened
    · omega
    · omega
  | some e =>
    have ⟨low, high⟩ := counted e rfl
    by_cases expired : now > e.reset
    · rw [turn_expired expired]
      simp only [true_and]
      -- The window that has ended did so before the minute or in it.
      have left : rateLimit.toInt ≤ room rateLimit.toInt start (some e) ∧
          (e.reset < start → room rateLimit.toInt start (some e) = 2 * rateLimit.toInt - 1) := by
        simp only [room]
        split
        · exact ⟨by omega, fun _ => rfl⟩
        · exact ⟨by omega, by omega⟩
      split at opened
      · omega
      · omega
    · by_cases full : e.count + 1 > rateLimit
      · rw [turn_full expired full]
        simp
      · rw [turn_next expired full]
        simp only [true_and]
        exact room_counted rateLimit.toInt start rfl (toInt_add_one (by omega)) (by omega)

theorem counted_turn (positive : 1 ≤ rateLimit.toInt) (below : rateLimit.toInt < 2 ^ 63 - 1)
    (counted : Counted rateLimit.toInt entry) (now : Int) :
    Counted rateLimit.toInt (some (turn rateLimit now entry).1) := by
  have fresh : Counted rateLimit.toInt (some ⟨1, now + minute⟩) := by
    intro e same
    rw [← Option.some.inj same]
    exact ⟨Int.le_refl 1, positive⟩
  cases entry with
  | none => exact fresh
  | some e =>
    have ⟨low, high⟩ := counted e rfl
    by_cases expired : now > e.reset
    · rw [turn_expired expired]
      exact fresh
    · by_cases full : e.count + 1 > rateLimit
      · rw [turn_full expired full]
        exact counted
      · rw [turn_next expired full]
        intro next same
        have bound : (e.count + 1).toInt ≤ rateLimit.toInt := by
          rw [← Int64.le_iff_toInt_le]
          exact Int64.not_lt.mp full
        have count := toInt_add_one (n := e.count) (by omega)
        rw [← Option.some.inj same]
        simp only
        omega

end Room

variable (more : Nat)

section Minutes

variable {rateLimit : Int64} {rate : GoMap String RateEntry}

variable {calls : List RateCall}

theorem within_late {ip : String} {start : Int}
    (late : ∀ call ∈ calls, start + minute < call.now) : within ip start calls = [] := by
  unfold within
  rw [List.filter_eq_nil_iff]
  intro call member
  have := late call member
  simp only [decide_eq_true_eq]
  omega

theorem length_within_cons (rateLimit : Int64) (rate : GoMap String RateEntry) (ip : String)
    (start : Int) (call : RateCall) (rest : List RateCall) :
    ((within ip start (admitted rateLimit rate (call :: rest))).length : Int) =
      (within ip start (admitted rateLimit (allowRate rateLimit rate call).1 rest)).length +
        if (allowRate rateLimit rate call).2 = true ∧ rateKey call.client = ip ∧
          start ≤ call.now ∧ call.now ≤ start + minute then 1 else 0 := by
  unfold within
  rw [admitted]
  by_cases allowed : (allowRate rateLimit rate call).2 = true
  · simp only [allowed, if_true, true_and, List.filter_cons, decide_eq_true_eq]
    split
    · rw [List.length_cons, Nat.cast_succ]
    · rw [add_zero]
  · simp only [allowed, if_false, false_and, add_zero, Bool.false_eq_true]

theorem within_admitted_le (positive : 1 ≤ rateLimit.toInt)
    (below : rateLimit.toInt < 2 ^ 63 - 1) (ip : String) (start : Int)
    (ordered : calls.Pairwise fun earlier later => earlier.now ≤ later.now)
    (counted : Counted rateLimit.toInt (entryOf rate ip)) :
    ((within ip start (admitted rateLimit rate calls)).length : Int) ≤
      room rateLimit.toInt start (entryOf rate ip) := by
  induction calls generalizing rate with
  | nil => exact room_nonneg positive counted
  | cons call rest ih =>
    have ⟨later, sorted⟩ := List.pairwise_cons.mp ordered
    by_cases early : call.now ≤ start + minute
    · rw [length_within_cons]
      by_cases same : rateKey call.client = ip
      · have ⟨entry, answer⟩ := allowRate_self rateLimit rate same
        have taken := room_turn positive below counted early
        have kept : Counted rateLimit.toInt (entryOf (allowRate rateLimit rate call).1 ip) := by
          rw [entry]
          exact counted_turn positive below counted call.now
        have bound := ih sorted kept
        rw [entry] at bound
        simp only [answer, same, early, and_true, true_and]
        omega
      · have kept : Counted rateLimit.toInt (entryOf (allowRate rateLimit rate call).1 ip) := by
          rw [allowRate_of_ne same]
          exact counted
        have bound := ih sorted kept
        rw [allowRate_of_ne same] at bound
        simp only [same, false_and, and_false, if_false, add_zero]
        exact bound
    -- No later call is in the minute.
    · have none : within ip start (admitted rateLimit rate (call :: rest)) = [] := by
        apply within_late
        intro other member
        rcases List.mem_cons.mp (mem_of_mem_admitted member) with same | behind
        · rw [same]
          omega
        · have := later other behind
          omega
      rw [none]
      exact room_nonneg positive counted

theorem within_le (positive : 1 ≤ rateLimit.toInt) (below : rateLimit.toInt < 2 ^ 63 - 1)
    (ordered : calls.Pairwise fun earlier later => earlier.now ≤ later.now) (ip : String)
    (start : Int) :
    ((within ip start (admitted rateLimit GoMap.nil calls)).length : Int) ≤
      2 * rateLimit.toInt - 1 :=
  within_admitted_le positive below ip start ordered nofun

def burst : List RateCall :=
  ⟨client, 0⟩ :: (List.replicate more ⟨client, minute⟩ ++
    ⟨client, minute + 1⟩ :: List.replicate more ⟨client, minute + 1⟩)

theorem burst_ordered :
    (burst client more).Pairwise fun earlier later => earlier.now ≤ later.now := by
  have long : 0 < minute := by decide
  have times : (burst client more).map RateCall.now =
      0 :: (List.replicate more minute ++ List.replicate (more + 1) (minute + 1)) := by
    simp [burst, List.replicate_succ]
  have sorted : ((burst client more).map RateCall.now).Pairwise (· ≤ ·) := by
    rw [times, List.pairwise_cons, List.pairwise_append, List.pairwise_replicate,
      List.pairwise_replicate]
    refine ⟨?_, Or.inr (Int.le_refl _), Or.inr (Int.le_refl _), ?_⟩
    · intro time member
      rcases List.mem_append.mp member with first | second
      · rw [List.eq_of_mem_replicate first]
        omega
      · rw [List.eq_of_mem_replicate second]
        omega
    · intro time first next second
      rw [List.eq_of_mem_replicate first, List.eq_of_mem_replicate second]
      omega
  exact List.pairwise_map.mp sorted

theorem admitted_replicate {client : String} {e : RateEntry} {now : Int} (n : Nat)
    (found : entryOf rate (rateKey client) = some e) (current : now ≤ e.reset)
    (free : e.count.toInt + n ≤ rateLimit.toInt) (rest : List RateCall) :
    ∃ next last, entryOf next (rateKey client) = some last ∧ last.reset = e.reset ∧
      admitted rateLimit rate (List.replicate n ⟨client, now⟩ ++ rest) =
        List.replicate n ⟨client, now⟩ ++ admitted rateLimit next rest := by
  induction n generalizing rate e with
  | zero => exact ⟨rate, e, found, rfl, rfl⟩
  | succ n ih =>
    have high := rateLimit.toInt_lt
    have count : (e.count + 1).toInt = e.count.toInt + 1 := toInt_add_one (by omega)
    have below : ¬e.count + 1 > rateLimit := by
      rw [gt_iff_lt, Int64.lt_iff_toInt_lt, count]
      omega
    have call : rateKey (RateCall.mk client now).client = rateKey client := rfl
    have ⟨entry, answer⟩ := allowRate_self rateLimit rate call
    simp only [found, turn_next (Int.not_lt.mpr current) below] at entry answer
    have ⟨next, last, kept, reset, same⟩ := ih entry current (by rw [count]; omega)
    refine ⟨next, last, kept, reset, ?_⟩
    rw [List.replicate_succ, List.cons_append, admitted, answer, if_pos rfl, same]
    rfl

theorem admitted_window {client : String} {now later : Int} {more : Nat}
    (fits : rateLimit.toInt = more + 1) (soon : later ≤ now + minute)
    (opens : turn rateLimit now (entryOf rate (rateKey client)) = (⟨1, now + minute⟩, true))
    (rest : List RateCall) :
    ∃ next last, entryOf next (rateKey client) = some last ∧ last.reset = now + minute ∧
      admitted rateLimit rate
          (⟨client, now⟩ :: (List.replicate more ⟨client, later⟩ ++ rest)) =
        ⟨client, now⟩ :: (List.replicate more ⟨client, later⟩ ++ admitted rateLimit next rest) := by
  have one : (1 : Int64).toInt = 1 := rfl
  have call : rateKey (RateCall.mk client now).client = rateKey client := rfl
  have ⟨entry, answer⟩ := allowRate_self rateLimit rate call
  simp only [opens] at entry answer
  have free : (1 : Int64).toInt + more ≤ rateLimit.toInt := by omega
  have ⟨next, last, kept, reset, same⟩ := admitted_replicate more entry soon free rest
  refine ⟨next, last, kept, reset, ?_⟩
  rw [admitted, answer, if_pos rfl, same]

theorem admitted_burst {more : Nat} (fits : rateLimit.toInt = more + 1) :
    admitted rateLimit GoMap.nil (burst client more) = burst client more := by
  have starts : turn rateLimit 0 (entryOf GoMap.nil (rateKey client)) =
      (⟨1, 0 + minute⟩, true) := rfl
  have soon : minute ≤ 0 + minute := by omega
  have ⟨next, last, kept, reset, first⟩ := admitted_window fits soon starts
    (⟨client, minute + 1⟩ :: (List.replicate more ⟨client, minute + 1⟩ ++ []))
  have restarts : turn rateLimit (minute + 1) (entryOf next (rateKey client)) =
      (⟨1, minute + 1 + minute⟩, true) := by
    rw [kept, turn_expired (by omega)]
  have near : minute + 1 ≤ minute + 1 + minute := by decide
  have ⟨_, _, _, _, second⟩ := admitted_window fits near restarts []
  have spelled : burst client more = ⟨client, 0⟩ :: (List.replicate more ⟨client, minute⟩ ++
      ⟨client, minute + 1⟩ :: (List.replicate more ⟨client, minute + 1⟩ ++ [])) := by
    rw [List.append_nil]
    rfl
  rw [spelled, first, second]
  rfl

theorem length_within_burst :
    (within (rateKey client) minute (burst client more)).length = 2 * more + 1 := by
  have before : ¬minute ≤ 0 := by decide
  have start : 0 ≤ minute := by decide
  have last : minute + 1 ≤ minute + minute := by decide
  simp [within, burst, List.filter_append, before, start, last]
  omega

end Minutes

/-- For a limit of at least one, the cap holds for every minute exactly if the limit is one. -/
theorem capped_iff (rateLimit : Int64) (positive : 1 ≤ rateLimit) :
    Capped rateLimit ↔ rateLimit = 1 := by
  have positive : 1 ≤ rateLimit.toInt := Int64.le_iff_toInt_le.mp positive
  constructor
  · intro capped
    have fits : rateLimit.toInt = ((rateLimit.toInt - 1).toNat : Int) + 1 := by omega
    have bound := capped (burst "" (rateLimit.toInt - 1).toNat) (burst_ordered _ _) (rateKey "")
      minute
    rw [admitted_burst "" fits, length_within_burst] at bound
    apply Int64.toInt_inj.mp
    have one : (1 : Int64).toInt = 1 := rfl
    omega
  · intro one calls ordered ip start
    have limit : rateLimit.toInt = 1 := by rw [one]; rfl
    have bound := within_le positive (by omega) ordered ip start
    omega

theorem capped_one : Capped 1 := (capped_iff 1 (by decide)).mpr rfl

theorem not_capped_two :
    (admitted 2 GoMap.nil (burst "10.0.0.1:4000" 1)).map RateCall.now =
        [0, minute, minute + 1, minute + 1] ∧ ¬Capped 2 := by
  have all : admitted 2 GoMap.nil (burst "10.0.0.1:4000" 1) = burst "10.0.0.1:4000" 1 :=
    admitted_burst "10.0.0.1:4000" rfl
  refine ⟨by rw [all]; rfl, ?_⟩
  intro capped
  have bound := capped (burst "10.0.0.1:4000" 1) (burst_ordered _ _) (rateKey "10.0.0.1:4000")
    minute
  exact absurd bound (by decide)

end Porter.Api
