import Porter.Event.Hub

/-!
# What a stream of the event hub gets

The hub at every moment of every history of broadcasts, streams and disconnects.
-/
namespace Porter.Event

open Run

variable {δ : Type}

/-- What a stream was sent, and what waits, are messages broadcast while it was registered, each at
most once and in order. -/
structure Faithful (marshal : δ → Option String) (sent : List (Broadcasted δ)) (c : Nat)
    (client : Client δ) : Prop where
  ordered : client.tickets.Pairwise (· < ·)
  registered : ∀ t ∈ client.tickets, ∃ entry, sent[t]? = some entry ∧ c ∈ entry.registered
  queued : ∀ item ∈ client.queue, ∃ entry, sent[item.ticket]? = some entry ∧
    entry.message = item.message
  texts : ∀ t text, .event t text ∈ client.written → ∃ entry payload, sent[t]? = some entry ∧
    marshal entry.message.data = some payload ∧ text = eventText entry.message.event payload

variable {t ticket index : Nat} {item : Item δ} {rest : List (Item δ)} {message : SseEvent δ}

section Streams

variable {marshal : δ → Option String} {sent : List (Broadcasted δ)} {c : Nat} {client : Client δ}

theorem faithful_new : Faithful marshal sent c (Client.new : Client δ) where
  ordered := List.Pairwise.nil
  registered := nofun
  queued := nofun
  texts := nofun

theorem getElem?_append_of_some {more : List (Broadcasted δ)} {entry : Broadcasted δ}
    (found : sent[t]? = some entry) : (sent ++ more)[t]? = some entry := by
  have bound := (List.getElem?_eq_some_iff.mp found).1
  rw [List.getElem?_append_left bound, found]

variable (faithful : Faithful marshal sent c client)

include faithful

theorem Faithful.append
    (more : List (Broadcasted δ)) : Faithful marshal (sent ++ more) c client where
  ordered := faithful.ordered
  registered := by
    intro t member
    have ⟨entry, found, listed⟩ := faithful.registered t member
    exact ⟨entry, getElem?_append_of_some found, listed⟩
  queued := by
    intro item member
    have ⟨entry, found, same⟩ := faithful.queued item member
    exact ⟨entry, getElem?_append_of_some found, same⟩
  texts := by
    intro t text member
    have ⟨entry, payload, found, marshalled, same⟩ := faithful.texts t text member
    exact ⟨entry, payload, getElem?_append_of_some found, marshalled, same⟩

theorem Faithful.lt (member : t ∈ client.tickets) : t < sent.length := by
  have ⟨_, found, _⟩ := faithful.registered t member
  exact (List.getElem?_eq_some_iff.mp found).1

omit faithful in
theorem tickets_push (client : Client δ) (item : Item δ) :
    { client with queue := client.queue ++ [item] }.tickets = client.tickets ++ [item.ticket] := by
  simp [Client.tickets, Client.streamed]

theorem Faithful.push {entry : Broadcasted δ}
    (later : ∀ t ∈ client.tickets, t < item.ticket) (found : sent[item.ticket]? = some entry)
    (listed : c ∈ entry.registered) (same : entry.message = item.message) :
    Faithful marshal sent c { client with queue := client.queue ++ [item] } where
  ordered := by
    rw [tickets_push]
    refine List.pairwise_append.mpr ⟨faithful.ordered, List.pairwise_singleton _ _, ?_⟩
    intro t member u last
    rw [List.mem_singleton.mp last]
    exact later t member
  registered := by
    intro t member
    rw [tickets_push, List.mem_append, List.mem_singleton] at member
    rcases member with old | new
    · exact faithful.registered t old
    · rw [new]
      exact ⟨entry, found, listed⟩
  queued := by
    intro other member
    rcases List.mem_append.mp member with old | new
    · exact faithful.queued other old
    · rw [List.mem_singleton.mp new]
      exact ⟨entry, found, same⟩
  texts := faithful.texts

/-- Without a broadcast nothing joins, and only what cannot be marshalled or sent is lost. -/
structure Follows (marshal : δ → Option String) (sent : List (Broadcasted δ)) (c : Nat)
    (client next : Client δ) : Prop where
  faithful : Faithful marshal sent c next
  subset : next.tickets ⊆ client.tickets
  short : next.queue.length ≤ client.queue.length
  gone : client.gone = true → next.gone = true
  kept : ∀ t ∈ client.tickets, t ∈ next.tickets ∨ next.gone = true ∨
    ∃ entry, sent[t]? = some entry ∧ marshal entry.message.data = none

theorem Follows.of_tickets {next : Client δ}
    (queue : next.queue = client.queue) (tickets : next.tickets = client.tickets)
    (texts : ∀ t text, .event t text ∈ next.written → .event t text ∈ client.written)
    (gone : client.gone = true → next.gone = true) : Follows marshal sent c client next where
  faithful :=
    { ordered := tickets ▸ faithful.ordered
      registered := tickets ▸ faithful.registered
      queued := queue ▸ faithful.queued
      texts := fun t text member => faithful.texts t text (texts t text member) }
  subset := fun _ member => tickets ▸ member
  short := Nat.le_of_eq (congrArg List.length queue)
  gone := gone
  kept := fun _ member => Or.inl (tickets ▸ member)

omit faithful

theorem tickets_greet (client : Client δ) :
    (client.write [.connected]).tickets = client.tickets := by
  unfold Client.write
  split
  · rfl
  · simp [Client.tickets, Client.streamed, Frame.ticket]

theorem mem_written_greet {text : String}
    (member : .event t text ∈ (client.write [.connected]).written) :
    .event t text ∈ client.written := by
  unfold Client.write at member
  split at member
  · exact member
  · simpa using member

theorem write_frame (client : Client δ) (frames : List Frame) :
    (client.write frames).queue = client.queue ∧ (client.write frames).closed = client.closed ∧
      (client.write frames).gone = client.gone := by
  unfold Client.write
  split
  · exact ⟨rfl, rfl, rfl⟩
  · exact ⟨rfl, rfl, rfl⟩

theorem tickets_receive (client : Client δ) (first : client.queue = item :: rest) :
    (client.receive marshal item rest).tickets =
      if client.gone = false ∧ (marshal item.message.data).isSome = true then client.tickets
      else client.streamed ++ rest.map Item.ticket := by
  unfold Client.receive Client.write
  cases gone : client.gone with
  | true => simp [Client.tickets, Client.streamed]
  | false =>
    cases marshal item.message.data with
    | none => simp [Client.tickets, Client.streamed]
    | some payload => simp [Client.tickets, Client.streamed, Frame.ticket, first]

theorem receive_frame (client : Client δ) (item : Item δ) (rest : List (Item δ)) :
    (client.receive marshal item rest).queue = rest ∧
      (client.receive marshal item rest).closed = client.closed ∧
      (client.receive marshal item rest).gone = client.gone :=
  write_frame { client with queue := rest } _

theorem tickets_of_queue (first : client.queue = item :: rest) :
    client.tickets = client.streamed ++ item.ticket :: rest.map Item.ticket := by
  simp [Client.tickets, first]

theorem tickets_receive_sublist (first : client.queue = item :: rest) :
    (client.receive marshal item rest).tickets.Sublist client.tickets := by
  rw [tickets_receive _ first]
  split
  · exact List.Sublist.refl _
  · rw [tickets_of_queue first]
    exact (List.sublist_cons_self _ _).append_left _

theorem Faithful.receive (faithful : Faithful marshal sent c client)
    (first : client.queue = item :: rest) :
    Faithful marshal sent c (client.receive marshal item rest) where
  ordered := faithful.ordered.sublist (tickets_receive_sublist first)
  registered := fun t member =>
    faithful.registered t ((tickets_receive_sublist first).subset member)
  queued := by
    rw [(receive_frame _ _ _).1]
    intro other member
    exact faithful.queued other (by rw [first]; exact List.mem_cons_of_mem _ member)
  texts := by
    intro t text member
    unfold Client.receive Client.write at member
    split at member
    · exact faithful.texts t text member
    · rcases List.mem_append.mp member with old | new
      · exact faithful.texts t text old
      · have ⟨entry, found, same⟩ := faithful.queued item (by rw [first]; exact List.mem_cons_self)
        have ⟨payload, marshalled, frame⟩ := List.mem_map.mp new
        rw [Option.mem_toList] at marshalled
        simp only [Frame.event.injEq] at frame
        rw [← frame.1, ← frame.2, ← same]
        rw [← same] at marshalled
        exact ⟨entry, payload, found, marshalled, rfl⟩

theorem Follows.receive (faithful : Faithful marshal sent c client)
    (first : client.queue = item :: rest) :
    Follows marshal sent c client (client.receive marshal item rest) where
  faithful := faithful.receive first
  subset := (tickets_receive_sublist first).subset
  short := by
    rw [(receive_frame _ _ rest).1, first]
    exact Nat.le_succ _
  gone := by
    rw [(receive_frame client item rest).2.2]
    exact id
  kept := by
    intro t member
    rw [tickets_receive _ first, (receive_frame _ _ rest).2.2]
    cases away : client.gone with
    | true => exact Or.inr (Or.inl rfl)
    | false =>
      cases marshalled : marshal item.message.data with
      | some payload =>
        left
        simpa using member
      | none =>
        rw [tickets_of_queue first, List.mem_append, List.mem_cons] at member
        rcases member with here | rfl | behind
        · left
          simp [here]
        · have ⟨entry, found, same⟩ :=
            faithful.queued item (by rw [first]; exact List.mem_cons_self)
          right
          right
          exact ⟨entry, found, by rw [same, marshalled]⟩
        · left
          simp [behind]

end Streams

structure Healthy (marshal : δ → Option String) (hub : Hub δ) (c : Nat) (client : Client δ) :
    Prop where
  opened : c ∈ hub.clients → c < hub.made ∧ client.closed = false
  fresh : hub.made ≤ c → client.closed = false
  faithful : Faithful marshal hub.sent c client
  short : client.queue.length ≤ capacity

structure Sound (marshal : δ → Option String) (hub : Hub δ) : Prop where
  once : hub.clients.Nodup
  owed : hub.owed.Sublist hub.clients
  idle : hub.locked = false → hub.owed = []
  healthy : ∀ c, Healthy marshal hub c (hub.client c)
  /-- What the broadcast at work still owes has not reached the channel by another way. -/
  earlier : ∀ c ∈ hub.owed, ∀ t ∈ (hub.client c).tickets, t + 1 < hub.sent.length
  full : ∀ drop ∈ hub.dropped, drop.queued = capacity
  complete : ∀ t entry c, hub.sent[t]? = some entry → c ∈ entry.registered →
    (marshal entry.message.data).isSome = true →
    t ∈ (hub.client c).tickets ∨ (∃ drop ∈ hub.dropped, drop.ticket = t ∧ drop.client = c) ∨
      (c ∈ hub.owed ∧ t + 1 = hub.sent.length) ∨ (hub.client c).gone = true

structure Own (hub : Hub δ) (call : Call δ) : Prop where
  holds : call.mutex = some () → hub.locked = true ∧ hub.owed = call.rest
  channel : ∀ c, call.channel = some c → c < hub.made ∧
    (c ∈ hub.clients ↔ call.registered = true) ∧
    ((hub.client c).closed = true ↔ call.finished = true)
  message : ∀ ticket message rest, call = .sending ticket message rest →
    ticket + 1 = hub.sent.length ∧ ∃ registered, hub.sent[ticket]? = some ⟨message, registered⟩ ∧
      rest ⊆ registered
  alive : call ≠ .panicked

section Steps

variable {marshal : δ → Option String} {hub next : Hub δ} {call reached : Call δ}

theorem Sound.opened (sound : Sound marshal hub) (c : Nat) (listed : c ∈ hub.clients) :
    c < hub.made ∧ (hub.client c).closed = false :=
  (sound.healthy c).opened listed

theorem set_self (hub : Hub δ) (c : Nat) (client : Client δ) :
    (hub.set c client).client c = client := by
  simp only [Hub.set, Function.update_self]

variable {c : Nat}

theorem set_of_ne (hub : Hub δ) {d : Nat} (client : Client δ) (apart : d ≠ c) :
    (hub.set c client).client d = hub.client d := by
  simp only [Hub.set, Function.update_of_ne apart]

theorem set_same (hub : Hub δ) (c : Nat) : hub.set c (hub.client c) = hub := by
  simp only [Hub.set, Function.update_eq_self]

variable {client : Client δ}

variable (sound : Sound marshal hub)

include sound

theorem Sound.update {owed : List Nat}
    {dropped : List Drop} (healthy : Healthy marshal hub c client)
    (fewer : owed.Sublist hub.owed) (others : ∀ d, d ≠ c → d ∈ hub.owed → d ∈ owed)
    (earlier : c ∈ owed → ∀ t ∈ client.tickets, t + 1 < hub.sent.length)
    (more : ∀ drop ∈ hub.dropped, drop ∈ dropped)
    (full : ∀ drop ∈ dropped, drop.queued = capacity)
    (complete : ∀ t entry, hub.sent[t]? = some entry → c ∈ entry.registered →
      (marshal entry.message.data).isSome = true →
      t ∈ client.tickets ∨ (∃ drop ∈ dropped, drop.ticket = t ∧ drop.client = c) ∨
        (c ∈ owed ∧ t + 1 = hub.sent.length) ∨ client.gone = true) :
    Sound marshal { hub.set c client with owed := owed, dropped := dropped } where
  once := sound.once
  owed := fewer.trans sound.owed
  idle := by
    intro unlocked
    have nothing := sound.idle unlocked
    rw [nothing] at fewer
    exact List.sublist_nil.mp fewer
  healthy := by
    intro d
    by_cases same : d = c
    · rw [same, set_self]
      exact { healthy with }
    · rw [set_of_ne _ _ same]
      exact { sound.healthy d with }
  earlier := by
    intro d ahead t member
    by_cases same : d = c
    · rw [same] at ahead
      rw [same, set_self] at member
      exact earlier ahead t member
    · rw [set_of_ne _ _ same] at member
      exact sound.earlier d (fewer.subset ahead) t member
  full := full
  complete := by
    intro t entry d found listed marshalled
    by_cases same : d = c
    · rw [same] at listed ⊢
      rw [set_self]
      exact complete t entry found listed marshalled
    · rw [set_of_ne _ _ same]
      rcases sound.complete t entry d found listed marshalled with
        held | ⟨drop, member, drops⟩ | ahead | left
      · exact Or.inl held
      · exact Or.inr (Or.inl ⟨drop, more drop member, drops⟩)
      · exact Or.inr (Or.inr (Or.inl ⟨others d same ahead.1, ahead.2⟩))
      · exact Or.inr (Or.inr (Or.inr left))

theorem Sound.set (follows : Follows marshal hub.sent c (hub.client c) client)
    (closed : client.closed = (hub.client c).closed ∨ c < hub.made ∧ c ∉ hub.clients) :
    Sound marshal (hub.set c client) := by
  have old := sound.healthy c
  refine sound.update ⟨?_, ?_, follows.faithful, Nat.le_trans follows.short old.short⟩
    (List.Sublist.refl _) (fun _ _ ahead => ahead) ?_ (fun _ member => member) sound.full ?_
  · intro listed
    rcases closed with kept | ⟨_, away⟩
    · rw [kept]
      exact old.opened listed
    · exact absurd listed away
  · intro unmade
    rcases closed with kept | ⟨bound, _⟩
    · rw [kept]
      exact old.fresh unmade
    · exact absurd bound (Nat.not_lt.mpr unmade)
  · intro ahead t member
    exact sound.earlier c ahead t (follows.subset member)
  · intro t entry found listed marshalled
    rcases sound.complete t entry c found listed marshalled with kept | dropped | owed | gone
    · rcases follows.kept t kept with still | gone | ⟨other, there, unmarshalled⟩
      · exact Or.inl still
      · exact Or.inr (Or.inr (Or.inr gone))
      · have equal : other = entry := Option.some.inj (there.symm.trans found)
        rw [equal] at unmarshalled
        rw [unmarshalled] at marshalled
        contradiction
    · exact Or.inr (Or.inl dropped)
    · exact Or.inr (Or.inr (Or.inl owed))
    · exact Or.inr (Or.inr (Or.inr (follows.gone gone)))

theorem Sound.of_same (nothing : hub.owed = []) (once : next.clients.Nodup)
    (opened : ∀ c ∈ next.clients, c < next.made ∧ (hub.client c).closed = false)
    (made : hub.made ≤ next.made) (client : next.client = hub.client) (sent : next.sent = hub.sent)
    (owed : next.owed = hub.owed) (dropped : next.dropped = hub.dropped) : Sound marshal next where
  once := once
  owed := by
    rw [owed, nothing]
    exact List.nil_sublist _
  idle := fun _ => by rw [owed, nothing]
  healthy := by
    intro c
    have old := sound.healthy c
    rw [client]
    refine ⟨opened c, fun unmade => old.fresh (Nat.le_trans made unmade), ?_, old.short⟩
    rw [sent]
    exact old.faithful
  earlier := by
    rw [client, sent, owed]
    exact sound.earlier
  full := by
    rw [dropped]
    exact sound.full
  complete := by
    rw [client, sent, owed, dropped]
    exact sound.complete

theorem Sound.lock (free : hub.locked = false) (message : SseEvent δ) :
    Sound marshal
      { hub with
        locked := true
        sent := hub.sent ++ [⟨message, hub.clients⟩]
        owed := hub.clients } where
  once := sound.once
  owed := List.Sublist.refl _
  idle := nofun
  healthy := fun c => { sound.healthy c with faithful := (sound.healthy c).faithful.append _ }
  earlier := by
    intro c _ t member
    have bound := (sound.healthy c).faithful.lt member
    rw [List.length_append, List.length_singleton]
    omega
  full := sound.full
  complete := by
    intro t entry c found listed marshalled
    have within := (List.getElem?_eq_some_iff.mp found).1
    simp only [List.length_append, List.length_singleton] at within ⊢
    by_cases last : t = hub.sent.length
    · right
      right
      left
      rw [last, List.getElem?_concat_length, Option.some.injEq] at found
      rw [← found] at listed
      exact ⟨listed, by omega⟩
    · have bound : t < hub.sent.length := by omega
      simp only [List.getElem?_append_left bound] at found
      rcases sound.complete t entry c found listed marshalled with kept | dropped | owed | gone
      · exact Or.inl kept
      · exact Or.inr (Or.inl dropped)
      · rw [sound.idle free] at owed
        exact absurd owed.1 List.not_mem_nil
      · exact Or.inr (Or.inr (Or.inr gone))

theorem Sound.offered {dropped : List Drop} (last : ticket + 1 = hub.sent.length)
    (faithful : Faithful marshal hub.sent c client) (short : client.queue.length ≤ capacity)
    (closed : client.closed = (hub.client c).closed) (gone : client.gone = (hub.client c).gone)
    (kept : ∀ t ∈ (hub.client c).tickets, t ∈ client.tickets)
    (more : ∀ drop ∈ hub.dropped, drop ∈ dropped)
    (full : ∀ drop ∈ dropped, drop.queued = capacity)
    (taken : ticket ∈ client.tickets ∨ ∃ drop ∈ dropped, drop.ticket = ticket ∧ drop.client = c) :
    Sound marshal { hub.set c client with owed := hub.owed.erase c, dropped := dropped } := by
  have old := sound.healthy c
  have once := sound.once.sublist sound.owed
  refine sound.update ⟨?_, ?_, faithful, short⟩ List.erase_sublist
    (fun d apart ahead => (List.mem_erase_of_ne apart).mpr ahead) ?_ more full ?_
  · rw [closed]
    exact old.opened
  · rw [closed]
    exact old.fresh
  · intro ahead
    exact absurd rfl (once.mem_erase_iff.mp ahead).1
  · intro t entry found listed marshalled
    rcases sound.complete t entry c found listed marshalled with
      held | ⟨drop, member, drops⟩ | owed | left
    · exact Or.inl (kept t held)
    · exact Or.inr (Or.inl ⟨drop, more drop member, drops⟩)
    · have number : t = ticket := by omega
      rw [number]
      exact taken.imp_right Or.inl
    · rw [gone]
      exact Or.inr (Or.inr (Or.inr left))

theorem Sound.offer {registered : List Nat}
    (ahead : c ∈ hub.owed) (last : ticket + 1 = hub.sent.length)
    (found : hub.sent[ticket]? = some ⟨message, registered⟩) (listed : c ∈ registered) :
    Sound marshal { hub.offer ⟨ticket, message⟩ c with owed := hub.owed.erase c } := by
  have healthy := sound.healthy c
  unfold Hub.offer
  split
  · next room =>
    have later : ∀ t ∈ (hub.client c).tickets, t < ticket := by
      intro t member
      have := sound.earlier c ahead t member
      omega
    refine sound.offered last (healthy.faithful.push later found listed rfl) ?_ rfl rfl ?_
      (fun _ member => member) sound.full ?_
    · rw [List.length_append, List.length_singleton]
      exact room
    · intro t member
      rw [tickets_push]
      exact List.mem_append_left _ member
    · rw [tickets_push]
      exact Or.inl (List.mem_append_right _ List.mem_cons_self)
  · next crowded =>
    have filled : (hub.client c).queue.length = capacity := by
      have := healthy.short
      omega
    have result := sound.offered last healthy.faithful healthy.short rfl rfl
      (fun _ member => member)
      (fun drop member => List.mem_append_left [⟨ticket, c, (hub.client c).queue.length⟩] member)
      (by
        intro drop member
        rcases List.mem_append.mp member with old | new
        · exact sound.full drop old
        · rw [List.mem_singleton.mp new]
          exact filled)
      (Or.inr ⟨_, List.mem_append_right _ List.mem_cons_self, rfl, rfl⟩)
    rw [set_same] at result
    exact result

theorem Sound.advances (own : Own hub call)
    (step : Advances marshal hub call next reached) : Sound marshal next := by
  cases step with
  | waits | overruns | refuses | leaves | recloses => exact sound
  | locks message free => exact sound.lock free message
  | offers ticket message rest ahead opened =>
    have ⟨_, owed⟩ := own.holds rfl
    have ⟨last, registered, found, subset⟩ := own.message ticket message rest rfl
    have owed : hub.owed = rest := owed
    rw [← owed] at ahead ⊢
    rw [← owed] at subset
    exact sound.offer ahead last found (subset ahead)
  | unlocks | frees =>
    exact sound.of_same (own.holds rfl).2 sound.once sound.opened (Nat.le_refl _) rfl rfl rfl rfl
  | makes =>
    refine { sound with healthy := ?_ }
    intro c
    have old := sound.healthy c
    refine ⟨?_, fun unmade => old.fresh (Nat.le_of_succ_le unmade), old.faithful, old.short⟩
    intro listed
    exact ⟨Nat.lt_succ_of_lt (old.opened listed).1, (old.opened listed).2⟩
  | enters c free =>
    exact sound.of_same (sound.idle free) sound.once sound.opened (Nat.le_refl _) rfl rfl rfl rfl
  | adds c =>
    have ⟨made, out, still⟩ := own.channel c rfl
    refine sound.of_same (own.holds rfl).2 ?_ ?_ (Nat.le_refl _) rfl rfl rfl rfl
    · exact List.nodup_cons.mpr ⟨fun listed => Bool.false_ne_true (out.mp listed), sound.once⟩
    · intro d listed
      rcases List.mem_cons.mp listed with rfl | old
      · exact ⟨made, Bool.eq_false_iff.mpr fun shut => Bool.false_ne_true (still.mp shut)⟩
      · exact sound.opened d old
  | greets c =>
    have ⟨queue, closed, gone⟩ := write_frame (hub.client c) [.connected]
    have follows := Follows.of_tickets (sound.healthy c).faithful queue (tickets_greet _)
      (fun _ _ => mem_written_greet) gone.trans
    have greeted := sound.set follows (Or.inl closed)
    exact greeted.of_same (own.holds rfl).2 greeted.once greeted.opened (Nat.le_refl _) rfl rfl rfl
      rfl
  | receives c first =>
    exact sound.set (Follows.receive (sound.healthy c).faithful first)
      (Or.inl (receive_frame _ _ _).2.1)
  | returns c free =>
    exact sound.of_same (sound.idle free) sound.once sound.opened (Nat.le_refl _) rfl rfl rfl rfl
  | removes c =>
    refine sound.of_same (own.holds rfl).2 (sound.once.erase c) ?_ (Nat.le_refl _) rfl rfl rfl rfl
    intro d listed
    exact sound.opened d (List.mem_of_mem_erase listed)
  | closes c opened =>
    have ⟨made, out, _⟩ := own.channel c rfl
    exact sound.set (Follows.of_tickets (sound.healthy c).faithful rfl rfl (fun _ _ => id) id)
      (Or.inr ⟨made, fun listed => Bool.false_ne_true (out.mp listed)⟩)

omit sound

theorem offer_frame (hub : Hub δ) (item : Item δ) (c d : Nat) :
    (hub.offer item c).locked = hub.locked ∧ (hub.offer item c).clients = hub.clients ∧
      (hub.offer item c).made = hub.made ∧ (hub.offer item c).sent = hub.sent ∧
      ((hub.offer item c).client d).closed = (hub.client d).closed := by
  unfold Hub.offer
  split
  · refine ⟨rfl, rfl, rfl, rfl, ?_⟩
    by_cases same : d = c
    · rw [same, set_self]
    · rw [set_of_ne _ _ same]
  · exact ⟨rfl, rfl, rfl, rfl, rfl⟩

theorem Advances.inside (step : Advances marshal hub call next reached) (free : call.mutex = none)
    (locked : hub.locked = true) :
    next.locked = true ∧ next.owed = hub.owed ∧ next.sent = hub.sent := by
  have taken : hub.locked ≠ false := fun unlocked => Bool.false_ne_true (unlocked.symm.trans locked)
  cases step with
  | waits | refuses | makes | receives | leaves | closes | recloses => exact ⟨locked, rfl, rfl⟩
  | locks message unlocked => exact absurd unlocked taken
  | offers | overruns | unlocks | adds | greets | removes | frees => contradiction
  | enters c unlocked => exact absurd unlocked taken
  | returns c unlocked => exact absurd unlocked taken

theorem Advances.elsewhere (step : Advances marshal hub call next reached) {d : Nat}
    (apart : call.channel ≠ some d) :
    hub.made ≤ next.made ∧ (d ∈ next.clients ↔ d ∈ hub.clients) ∧
      (next.client d).closed = (hub.client d).closed := by
  have other : ∀ {c}, call.channel = some c → d ≠ c :=
    fun owns same => apart (owns.trans (congrArg some same.symm))
  cases step with
  | waits | locks | overruns | unlocks | refuses | enters | leaves | returns | frees | recloses =>
    exact ⟨Nat.le_refl _, Iff.rfl, rfl⟩
  | @offers ticket message rest c ahead opened =>
    have ⟨_, clients, made, _, closed⟩ := offer_frame hub ⟨ticket, message⟩ c d
    exact ⟨Nat.le_of_eq made.symm, by rw [clients], closed⟩
  | makes => exact ⟨Nat.le_succ _, Iff.rfl, rfl⟩
  | adds c =>
    refine ⟨Nat.le_refl _, ?_, rfl⟩
    exact List.mem_cons.trans (or_iff_right (other rfl))
  | greets | receives | closes =>
    exact ⟨Nat.le_refl _, Iff.rfl, by rw [set_of_ne _ _ (other rfl)]⟩
  | removes c => exact ⟨Nat.le_refl _, List.mem_erase_of_ne (other rfl), rfl⟩

theorem Own.beside {other : Call δ} (own : Own hub other)
    (step : Advances marshal hub call next reached)
    (alone : other.mutex = some () → call.mutex = none)
    (apart : ∀ d, other.channel = some d → call.channel ≠ some d) : Own next other where
  holds := by
    intro critical
    have ⟨locked, owed⟩ := own.holds critical
    have ⟨still, same, _⟩ := step.inside (alone critical) locked
    exact ⟨still, same.trans owed⟩
  channel := by
    intro d uses
    have ⟨made, listed, closed⟩ := own.channel d uses
    have ⟨grown, clients, shut⟩ := step.elsewhere (apart d uses)
    exact ⟨Nat.lt_of_lt_of_le made grown, clients.trans listed, by rw [shut]; exact closed⟩
  message := by
    intro ticket message rest sending
    have critical : other.mutex = some () := by rw [sending]; rfl
    have ⟨_, _, sent⟩ := step.inside (alone critical) (own.holds critical).1
    rw [sent]
    exact own.message ticket message rest sending
  alive := own.alive

theorem Own.idle (out : call.mutex = none) (unused : call.channel = none)
    (alive : call ≠ .panicked) : Own hub call where
  holds := fun critical => nomatch out.symm.trans critical
  channel := fun _ uses => nomatch unused.symm.trans uses
  message := by
    intro ticket message rest sending
    rw [sending] at out
    contradiction
  alive := alive

theorem Own.stream (uses : call.channel = some c)
    (holds : call.mutex = some () → hub.locked = true ∧ hub.owed = call.rest)
    (known : c < hub.made ∧ (c ∈ hub.clients ↔ call.registered = true) ∧
      ((hub.client c).closed = true ↔ call.finished = true)) : Own hub call where
  holds := holds
  channel := by
    intro d same
    rw [uses] at same
    rw [← Option.some.inj same]
    exact known
  message := by
    intro ticket message rest sending
    rw [sending] at uses
    contradiction
  alive := by
    intro dead
    rw [dead] at uses
    contradiction

theorem Own.locks (hub : Hub δ) (message : SseEvent δ) :
    Own
      { hub with
        locked := true
        sent := hub.sent ++ [⟨message, hub.clients⟩]
        owed := hub.clients }
      (.sending hub.sent.length message hub.clients) where
  holds := fun _ => ⟨rfl, rfl⟩
  channel := nofun
  message := by
    intro ticket other rest same
    obtain ⟨rfl, rfl, rfl⟩ := same
    refine ⟨?_, hub.clients, List.getElem?_concat_length, List.Subset.refl _⟩
    rw [List.length_append, List.length_singleton]
  alive := nofun

theorem Own.offers {rest : List Nat} (own : Own hub (.sending ticket message rest)) :
    Own { hub.offer ⟨ticket, message⟩ c with owed := rest.erase c }
      (.sending ticket message (rest.erase c)) := by
  have ⟨locked, _, _, sent, _⟩ := offer_frame hub ⟨ticket, message⟩ c 0
  have ⟨last, registered, found, subset⟩ := own.message ticket message rest rfl
  constructor
  · exact fun _ => ⟨locked.trans (own.holds rfl).1, rfl⟩
  · exact nofun
  · intro number other left same
    obtain ⟨rfl, rfl, rfl⟩ := same
    rw [sent]
    exact ⟨last, registered, found, fun d member => subset (List.mem_of_mem_erase member)⟩
  · exact nofun

theorem Own.advances (own : Own hub call) (sound : Sound marshal hub)
    (step : Advances marshal hub call next reached) : Own next reached := by
  cases step with
  | waits => exact own
  | locks message free => exact Own.locks hub message
  | offers => exact own.offers
  | @overruns ticket message rest c ahead shut =>
    have ahead : c ∈ hub.owed := by
      rw [(own.holds rfl).2]
      exact ahead
    have opened := (sound.opened c (sound.owed.subset ahead)).2
    exact absurd (opened.symm.trans shut) Bool.false_ne_true
  | unlocks | refuses => exact Own.idle rfl rfl nofun
  | makes =>
    have unlisted : hub.made ∉ hub.clients :=
      fun listed => Nat.lt_irrefl _ (sound.opened _ listed).1
    have opened := Bool.eq_false_iff.mp ((sound.healthy hub.made).fresh (Nat.le_refl _))
    exact Own.stream rfl nofun
      ⟨Nat.lt_succ_self _, iff_of_false unlisted Bool.false_ne_true,
        iff_of_false opened Bool.false_ne_true⟩
  | enters c free => exact Own.stream rfl (fun _ => ⟨rfl, sound.idle free⟩) (own.channel c rfl)
  | adds c =>
    have ⟨made, _, still⟩ := own.channel c rfl
    exact Own.stream rfl (fun _ => own.holds rfl) ⟨made, iff_of_true List.mem_cons_self rfl, still⟩
  | greets c =>
    have ⟨made, listed, still⟩ := own.channel c rfl
    refine Own.stream rfl nofun ⟨made, listed, ?_⟩
    rw [set_self, (write_frame _ _).2.1]
    exact still
  | receives c first =>
    have ⟨made, listed, still⟩ := own.channel c rfl
    refine Own.stream rfl nofun ⟨made, listed, ?_⟩
    rw [set_self, (receive_frame _ _ _).2.1]
    exact still
  | leaves | frees => exact Own.stream rfl nofun (own.channel _ rfl)
  | returns c free => exact Own.stream rfl (fun _ => ⟨rfl, sound.idle free⟩) (own.channel c rfl)
  | removes c =>
    have ⟨made, _, still⟩ := own.channel c rfl
    have unlisted : c ∉ hub.clients.erase c :=
      fun listed => (sound.once.mem_erase_iff.mp listed).1 rfl
    exact Own.stream rfl (fun _ => own.holds rfl)
      ⟨made, iff_of_false unlisted Bool.false_ne_true, still⟩
  | closes c opened =>
    have ⟨made, listed, _⟩ := own.channel c rfl
    refine Own.stream rfl nofun ⟨made, listed, ?_⟩
    rw [set_self]
    exact iff_of_true rfl rfl
  | recloses c shut =>
    have ⟨_, _, still⟩ := own.channel c rfl
    exact absurd (still.mp shut) Bool.false_ne_true

theorem Advances.mutex (step : Advances marshal hub call next reached) (sound : Sound marshal hub)
    (own : Own hub call) :
    next.mutex ++ reached.mutex.toList = hub.mutex ++ call.mutex.toList := by
  have alive := (own.advances sound step).alive
  have given : call.mutex = some () → [()] = hub.mutex ++ call.mutex.toList := by
    intro critical
    rw [critical]
    simp [Hub.mutex, (own.holds critical).1]
  have taken : hub.locked = false → call.mutex = none →
      [()] = hub.mutex ++ call.mutex.toList := by
    intro free out
    rw [out]
    simp [Hub.mutex, free]
  cases step with
  | waits | refuses | makes | adds | receives | leaves | removes | closes => rfl
  | locks message free => exact taken free rfl
  | @offers ticket message rest c =>
    have same := (offer_frame hub ⟨ticket, message⟩ c 0).1
    simp only [Hub.mutex, same, Call.mutex]
  | overruns | recloses => exact absurd rfl alive
  | unlocks | greets | frees => exact given rfl
  | enters c free => exact taken free rfl
  | returns c free => exact taken free rfl

theorem Advances.channel (step : Advances marshal hub call next reached) {rest : List Nat}
    (made : ∀ c ∈ rest, c < hub.made) (once : (call.channel.toList ++ rest).Nodup) :
    (reached.channel.toList ++ rest).Nodup := by
  have dropped : ([] ++ rest).Nodup :=
    once.sublist (List.Sublist.append_right (List.nil_sublist _) rest)
  cases step with
  | waits | locks | offers | overruns | unlocks | refuses | enters | adds | greets | receives
  | leaves | returns | removes | frees | closes =>
    exact once
  | makes =>
    exact List.nodup_cons.mpr ⟨fun member => Nat.lt_irrefl _ (made _ member), dropped⟩
  | recloses => exact dropped

theorem Call.remaining_pos (critical : call.mutex = some ()) : 0 < call.remaining := by
  cases call with
  | sending | add | added | remove | removed => exact Nat.succ_pos _
  | _ => contradiction

theorem act_sending {rest : List Nat} (sound : Sound marshal hub)
    (own : Own hub (.sending ticket message rest)) (input : Input) :
    rest = [] ∧ act marshal hub (.sending ticket message rest) input =
        ({ hub with locked := false }, .sent) ∨
      ∃ c ∈ rest, (act marshal hub (.sending ticket message rest) input).2 =
        .sending ticket message (rest.erase c) := by
  have alive := (own.advances sound (act_advances _ _ _ input)).alive
  simp only [act] at alive ⊢
  split
  · next none => exact Or.inl ⟨getElem?_mod_eq_none none, rfl⟩
  · next c some =>
    rw [some] at alive
    split
    · next shut =>
      simp only [shut, if_true] at alive
      exact absurd rfl alive
    · exact Or.inr ⟨c, List.mem_of_getElem? some, rfl⟩

theorem act_remaining (sound : Sound marshal hub) (own : Own hub call)
    (critical : call.mutex = some ()) (input : Input) :
    ((act marshal hub call input).2.mutex = some () ∧
        (act marshal hub call input).2.remaining + 1 = call.remaining) ∨
      (call.remaining = 1 ∧ (act marshal hub call input).1.locked = false) := by
  cases call with
  | sending ticket message rest =>
    rcases act_sending sound own input with ⟨rfl, ends⟩ | ⟨c, member, next⟩
    · exact Or.inr ⟨rfl, rfl⟩
    · have positive := List.length_pos_of_mem member
      rw [next]
      refine Or.inl ⟨rfl, ?_⟩
      simp only [Call.remaining, List.length_erase_of_mem member]
      omega
  | add | remove => exact Or.inl ⟨rfl, rfl⟩
  | added | removed => exact Or.inr ⟨rfl, rfl⟩
  | _ => contradiction

end Steps

structure Invariant (marshal : δ → Option String) (p : Pool (Hub δ) (Call δ)) : Prop where
  known : System.Holds (Sound marshal) Own p
  mutex : Conserved Hub.mutex Call.mutex [()] p
  channels : Exclusive (fun _ => []) Call.channel p

section Histories

variable {marshal : δ → Option String} {p : Pool (Hub δ) (Call δ)}

theorem begin_outside (request : Request δ) :
    (begin request).mutex = none ∧ (begin request).channel = none ∧
      begin request ≠ .panicked := by
  cases request with
  | broadcast | serveHTTP => exact ⟨rfl, rfl, nofun⟩

theorem Sound.disconnect {hub : Hub δ} (sound : Sound marshal hub) (c : Nat) :
    Sound marshal (disconnect hub c) :=
  sound.set (Follows.of_tickets (sound.healthy c).faithful rfl rfl (fun _ _ => id) fun _ => rfl)
    (Or.inl rfl)

theorem disconnect_closed (hub : Hub δ) (c d : Nat) :
    ((disconnect hub c).client d).closed = (hub.client d).closed := by
  unfold Event.disconnect
  by_cases same : d = c
  · rw [same, set_self]
  · rw [set_of_ne _ _ same]

variable {call : Call δ}

theorem Own.disconnect {hub : Hub δ} (own : Own hub call) (c : Nat) :
    Own (disconnect hub c) call where
  holds := own.holds
  channel := by
    intro d uses
    rw [disconnect_closed]
    exact own.channel d uses
  message := own.message
  alive := own.alive

theorem Invariant.known_act (inv : Invariant marshal p) (present : p.calls[index]? = some call)
    (input : Input) :
    System.Holds (Sound marshal) Own ((system marshal).step p (.act index input)) := by
  have sound := inv.known.shared
  have own := inv.known.calls index call present
  have step := act_advances marshal p.shared call input
  have unique := inv.mutex.exclusive (List.nodup_singleton ())
  apply inv.known.act
  intro acting found
  obtain rfl : call = acting := Option.some.inj (present.symm.trans found)
  refine ⟨sound.advances own step, own.advances sound step, ?_⟩
  intro i other elsewhere there
  apply (inv.known.calls i other there).beside step
  · intro critical
    by_contra inside
    have ⟨_, both⟩ := Option.ne_none_iff_exists'.mp inside
    exact elsewhere (unique.index_eq there present critical both)
  · intro d uses shared
    exact elsewhere (inv.channels.index_eq there present uses shared)

theorem invariant_step (p : Pool (Hub δ) (Call δ)) (event : Event (Request δ) Input Nat)
    (inv : Invariant marshal p) : Invariant marshal ((system marshal).step p event) := by
  cases event with
  | begin request =>
    have ⟨out, unmade, alive⟩ := begin_outside request
    exact ⟨inv.known.begin (Own.idle out unmade alive), inv.mutex.begin out,
      inv.channels.begin unmade⟩
  | outside c =>
    exact ⟨inv.known.outside (inv.known.shared.disconnect c) fun _ own => own.disconnect c,
      inv.mutex, inv.channels⟩
  | act index input =>
    cases present : p.calls[index]? with
    | none =>
      rw [System.step_act_of_none _ present]
      exact inv
    | some call =>
      have sound := inv.known.shared
      have own := inv.known.calls index call present
      have step := act_advances marshal p.shared call input
      refine ⟨inv.known_act present input, ?_, ?_⟩
      · apply inv.mutex.act present
        intro rest before
        have same : (act marshal p.shared call input).1.mutex ++
            (act marshal p.shared call input).2.mutex.toList =
              p.shared.mutex ++ call.mutex.toList := step.mutex sound own
        rw [← List.append_assoc] at before ⊢
        rw [← same] at before
        exact before
      · apply inv.channels.act present
        intro rest others once
        refine step.channel ?_ once
        intro c held
        have ⟨other, among, uses⟩ := Pool.mem_held.mp (others c held)
        exact ((inv.known.mem among).channel c uses).1

theorem sound_NewHub : Sound marshal (NewHub : Hub δ) where
  once := List.nodup_nil
  owed := List.Sublist.refl _
  idle := fun _ => rfl
  healthy := fun _ => ⟨(nomatch ·), fun _ => rfl, faithful_new, Nat.zero_le _⟩
  earlier := nofun
  full := nofun
  complete := nofun

theorem invariant_after (marshal : δ → Option String)
    (history : List (Event (Request δ) Input Nat)) : Invariant marshal (after marshal history) :=
  run_preserved (system marshal).step (Invariant marshal) invariant_step _ history
    { known := ⟨sound_NewHub, nofun⟩
      mutex := List.Perm.refl _
      channels := List.nodup_nil }

variable (inv : Invariant marshal p)

include inv

theorem Invariant.released (present : p.calls[index]? = some call) (critical : call.mutex = some ())
    (inputs : List Input) (enough : inputs.length = call.remaining) :
    (run (system marshal).step p (inputs.map (.act index))).shared.locked = false := by
  -- One step either gives the mutex back, as the last one, or leaves one step fewer.
  induction inputs generalizing p call with
  | nil =>
    have := Call.remaining_pos critical
    have : 0 = call.remaining := enough
    omega
  | cons input rest ih =>
    have own := inv.known.calls index call present
    have later := invariant_step p (.act index input) inv
    have there : ((system marshal).step p (.act index input)).calls[index]? = some _ :=
      System.getElem?_step_act _ present
    rw [List.map_cons, run_cons]
    rcases act_remaining inv.known.shared own critical input with ⟨still, fewer⟩ | ⟨last, free⟩
    · refine ih later there still ?_
      have : rest.length + 1 = call.remaining := enough
      have : ((system marshal).act p.shared call input).2.remaining + 1 = call.remaining := fewer
      omega
    · have nothing : rest = [] := by
        have : rest.length + 1 = call.remaining := enough
        exact List.length_eq_zero_iff.mp (by omega)
      rw [nothing]
      rw [System.step_act_of_some _ present]
      exact free

theorem Invariant.holder (locked : p.shared.locked = true) :
    ∃ (index : Nat) (call : Call δ), p.calls[index]? = some call ∧ call.mutex = some () :=
  inv.mutex.holder List.mem_cons_self (by simp [Hub.mutex, locked])

theorem Invariant.owing {c : Nat} (owed : c ∈ p.shared.owed) (last : t + 1 = p.shared.sent.length) :
    ∃ message rest, .sending t message rest ∈ p.calls ∧ c ∈ rest := by
  have locked : p.shared.locked = true := by
    by_contra unlocked
    have nothing := inv.known.shared.idle (Bool.eq_false_iff.mpr unlocked)
    rw [nothing] at owed
    contradiction
  have ⟨index, call, present, critical⟩ := inv.holder locked
  have own := inv.known.calls index call present
  rw [(own.holds critical).2] at owed
  cases call with
  | sending ticket message rest =>
    have number := (own.message ticket message rest rfl).1
    have same : ticket = t := by omega
    rw [same] at present
    exact ⟨message, rest, List.mem_of_getElem? present, owed⟩
  | _ => contradiction

end Histories

def Pending (p : Pool (Hub δ) (Call δ)) (c t : Nat) : Prop :=
  (∃ item ∈ (p.shared.client c).queue, item.ticket = t) ∨
    ∃ message rest, .sending t message rest ∈ p.calls ∧ c ∈ rest

structure Delivers (marshal : δ → Option String) (p : Pool (Hub δ) (Call δ)) : Prop where
  /-- No call has sent on a closed channel, and none is about to. -/
  opened : .panicked ∉ p.calls ∧ ∀ ticket message rest, .sending ticket message rest ∈ p.calls →
    ∀ c ∈ rest, (p.shared.client c).closed = false
  /-- A broadcast in its loop does not wait. -/
  proceeds : ∀ index ticket message rest,
    p.calls[index]? = some (.sending ticket message rest) → ∀ input,
      (rest = [] ∧ ((system marshal).step p (.act index input)).calls[index]? = some .sent) ∨
        ∃ c ∈ rest, ((system marshal).step p (.act index input)).calls[index]? =
          some (.sending ticket message (rest.erase c))
  /-- A broadcast takes a free mutex, and a locked one waits only for the steps of one call. -/
  locks : ∀ index message, p.calls[index]? = some (.lock message) →
    (∀ input, ((system marshal).step p (.act index input)).calls[index]? =
      some (.sending p.shared.sent.length message p.shared.clients)) ∨
    ∃ (holder : Nat) (call : Call δ), p.calls[holder]? = some call ∧
      ∀ inputs : List Input, inputs.length = call.remaining →
        (run (system marshal).step p (inputs.map (.act holder))).shared.locked = false
  /-- The events on a stream are broadcasts made while it was registered, each at most once and in
  the order of the broadcasts. -/
  stream : ∀ c, (p.shared.client c).streamed.Pairwise (· < ·) ∧
    ∀ t text, .event t text ∈ (p.shared.client c).written →
      ∃ entry payload, p.shared.sent[t]? = some entry ∧ c ∈ entry.registered ∧
        marshal entry.message.data = some payload ∧ text = eventText entry.message.event payload
  /-- What is missing on a stream is on its way, was dropped at a full channel, or belongs to a
  client that has gone. -/
  missing : ∀ c t entry, p.shared.sent[t]? = some entry → c ∈ entry.registered →
    (marshal entry.message.data).isSome = true → t ∉ (p.shared.client c).streamed →
    Pending p c t ∨ (⟨t, c, capacity⟩ : Drop) ∈ p.shared.dropped ∨
      (p.shared.client c).gone = true

section Delivery

variable {marshal : δ → Option String} {p : Pool (Hub δ) (Call δ)}

theorem mem_streamed {client : Client δ} {text : String} (member : .event t text ∈ client.written) :
    t ∈ client.tickets :=
  List.mem_append_left _ (List.mem_filterMap.mpr ⟨_, member, rfl⟩)

theorem Invariant.opened (inv : Invariant marshal p) {rest : List Nat}
    (sending : .sending ticket message rest ∈ p.calls) {c : Nat} (ahead : c ∈ rest) :
    (p.shared.client c).closed = false := by
  have owed : p.shared.owed = rest := ((inv.known.mem sending).holds rfl).2
  rw [← owed] at ahead
  exact (inv.known.shared.opened c (inv.known.shared.owed.subset ahead)).2

theorem Invariant.delivers (inv : Invariant marshal p) : Delivers marshal p where
  opened := by
    refine ⟨fun dead => (inv.known.mem dead).alive rfl, ?_⟩
    intro ticket message rest sending c ahead
    exact inv.opened sending ahead
  proceeds := by
    intro index ticket message rest present input
    rw [System.getElem?_step_act _ present]
    rcases act_sending inv.known.shared (inv.known.calls index _ present) input with
      ⟨none, ends⟩ | ⟨c, member, next⟩
    · exact Or.inl ⟨none, congrArg (fun reached => some reached.2) ends⟩
    · exact Or.inr ⟨c, member, congrArg some next⟩
  locks := by
    intro index message waiting
    cases locked : p.shared.locked with
    | false =>
      left
      intro input
      rw [System.getElem?_step_act _ waiting]
      show some (act marshal p.shared (.lock message) input).2 = _
      simp only [act, locked, Bool.false_eq_true, if_false]
    | true =>
      obtain ⟨holder, call, present, critical⟩ := inv.holder locked
      exact Or.inr ⟨holder, call, present, inv.released present critical⟩
  stream := by
    intro c
    have faithful := (inv.known.shared.healthy c).faithful
    refine ⟨(List.pairwise_append.mp faithful.ordered).1, ?_⟩
    intro t text member
    obtain ⟨entry, payload, found, marshalled, same⟩ := faithful.texts t text member
    obtain ⟨other, there, listed⟩ := faithful.registered t (mem_streamed member)
    have equal : other = entry := Option.some.inj (there.symm.trans found)
    rw [equal] at listed
    exact ⟨entry, payload, found, listed, marshalled, same⟩
  missing := by
    intro c t entry found listed marshalled absent
    rcases inv.known.shared.complete t entry c found listed marshalled with
      held | ⟨drop, member, ticket, client⟩ | owed | gone
    · have queued := (List.mem_append.mp held).resolve_left absent
      exact Or.inl (Or.inl (List.mem_map.mp queued))
    · have full := inv.known.shared.full drop member
      have same : drop = ⟨t, c, capacity⟩ := by rw [← ticket, ← client, ← full]
      rw [same] at member
      exact Or.inr (Or.inl member)
    · exact Or.inl (Or.inr (inv.owing owed.1 owed.2))
    · exact Or.inr (Or.inr gone)

end Delivery

/-- At every moment of every history of broadcasts, streams and disconnects. -/
theorem delivers_after (marshal : δ → Option String)
    (history : List (Event (Request δ) Input Nat)) :
    Delivers marshal (after marshal history) :=
  (invariant_after marshal history).delivers

end Porter.Event
