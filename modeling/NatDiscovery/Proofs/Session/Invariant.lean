import NatDiscovery.Proofs.Arrivals
import NatDiscovery.Proofs.Session.Basic

/-!
# `Proofs.Session.Invariant` — what every move keeps

`Inv` holds at every instant of every collection, whatever the probes do and in whatever order the
parties move. Its core is the balance of mappings (`balanced`): **the mappings sent so far, wherever
they are now, are one from each task that has resolved**. Everything that bounds the channel, the
rounds of the wait and the report follows from it.

## Contents
- `Worker.Sound`, `Worker.Move.sound`, `Worker.Move.delivers`: one task
- `Worker.Change`, `Step.workers_eq_or`: what a move of the collection does to the tasks
- `Session.sent`, `Inv`, `inv_start`, `inv_step`, `Reachable.inv`: all of them
- `Inv.sent_nodup`, `Inv.mem_locals_of_sent`, `Inv.length_sent_le`: what the balance bounds
-/

namespace NatDiscovery

namespace Worker

/-! ## One task -/

/-- A task keeps its books: its probes are counted, what it sends is its own mapping, found by its
    last probe, and it is joined only after its end. -/
structure Sound (w : Worker) : Prop where
  counted : w.task.finished + w.task.underWay = w.task.probes.length
  found : ∀ m, w.outbox = some m →
    w.task.phase = .ended .resolved ∧ m.internal = w.task.address
  isOver : w.joined = true → w.Over

variable {prober : Prober} {now : Nat} {shutDown : Bool} {w w' : Worker}

theorem sound_quiet_start (ports : List Port) (ip : IpAddr) :
    (quiet (.start ports ip)).Sound :=
  ⟨rfl, fun m h => by simp [quiet] at h, fun h => by simp [quiet] at h⟩

/-- Only a task that has ended has something to send. -/
theorem Sound.outbox_eq_none (h : w.Sound) (hphase : ∀ outcome, w.task.phase ≠ .ended outcome) :
    w.outbox = none := by
  cases hout : w.outbox with
  | none => rfl
  | some m => exact absurd (h.found m hout).1 (hphase .resolved)

theorem Sound.joined_eq_false (h : w.Sound)
    (hphase : ∀ outcome, w.task.phase ≠ .ended outcome) : w.joined = false := by
  cases hjoined : w.joined with
  | false => rfl
  | true =>
      obtain ⟨_, outcome, hended⟩ := h.isOver hjoined
      exact absurd hended (hphase outcome)

theorem Move.not_ended (h : w.Move prober now shutDown w') :
    ∀ outcome, w.task.phase ≠ .ended outcome := by
  intro outcome hended
  cases h with
  | probe idle => simp [hended] at idle
  | exhaust idle => simp [hended] at idle
  | cancel idle => simp [hended] at idle
  | answer probing => simp [hended] at probing
  | drop probing => simp [hended] at probing

theorem Move.address_eq (h : w.Move prober now shutDown w') :
    w'.task.address = w.task.address := by
  cases h <;> rfl

theorem Move.joined_eq (h : w.Move prober now shutDown w') : w'.joined = w.joined := by
  cases h <;> rfl

/-- A mapping found is the last thing that a task finds. -/
theorem phase_settle_of_mapping {t : ProbeTask} {answer : Answer} {address : IpAddr} {m : Mapping}
    (h : answer.mapping? address = some m) :
    (t.settle answer).phase = .ended .resolved ∧ m.internal = address := by
  cases answer with
  | found external =>
      injection h with h
      exact ⟨rfl, by rw [← h]⟩
  | failed cause => simp [Answer.mapping?] at h
  | crashed => simp [Answer.mapping?] at h

/-- A task that resolves has found a mapping. -/
theorem mapping_of_phase_settle {t : ProbeTask} {answer : Answer} (address : IpAddr)
    (h : (t.settle answer).phase = .ended .resolved) : ∃ m, answer.mapping? address = some m := by
  have hout : answer.outcome? = some .resolved := by
    unfold ProbeTask.settle at h
    simp only at h
    split at h
    · rename_i outcome hout
      injection h with h
      rw [hout, h]
    · simp at h
  obtain ⟨external, rfl⟩ := Answer.outcome?_eq_resolved_iff.mp hout
  exact ⟨⟨external, address⟩, rfl⟩

/-- A probe that is no longer under way is counted. -/
theorem counted_settle {t : ProbeTask} {ends : Nat} {answer answer' : Answer}
    (hphase : t.phase = .probing ends answer)
    (hcount : t.finished + t.underWay = t.probes.length) :
    (t.settle answer').finished + (t.settle answer').underWay =
      (t.settle answer').probes.length := by
  have hunder : (t.settle answer').underWay = 0 := by
    unfold ProbeTask.underWay ProbeTask.settle
    simp only
    cases answer'.outcome? <;> rfl
  have hone : t.underWay = 1 := by
    simp only [ProbeTask.underWay, hphase]
  rw [hunder]
  rw [hone] at hcount
  exact hcount

/-- A task with nothing to send that has not been joined keeps its books if it counts its probes. -/
theorem sound_of_silent (hcount : w.task.finished + w.task.underWay = w.task.probes.length)
    (hnone : w.outbox = none) (hfree : w.joined = false) : w.Sound := by
  refine ⟨hcount, ?_, ?_⟩
  · intro m hm
    rw [hnone] at hm
    injection hm
  · intro hj
    rw [hfree] at hj
    injection hj

/-- A task that has ended with a mapping to send keeps its books when it is rid of it. -/
theorem sound_of_sent {m : Mapping} (ready : w.outbox = some m) (hw : w.Sound) :
    Sound { w with outbox := none } := by
  refine ⟨hw.counted, ?_, ?_⟩
  · intro k hk
    injection hk
  · intro hj
    exact ⟨rfl, _, (hw.found m ready).1⟩

/-- A move of a task keeps its books. -/
theorem Move.sound (h : w.Move prober now shutDown w') (hw : w.Sound) : w'.Sound := by
  have hnone := hw.outbox_eq_none h.not_ended
  have hfree := hw.joined_eq_false h.not_ended
  have hcount := hw.counted
  cases h with
  | @probe port ports idle next running =>
      refine sound_of_silent ?_ hnone hfree
      show w.task.finished + 1 = (w.task.probes ++ _).length
      rw [List.length_append, List.length_singleton, ← hcount]
      simp only [ProbeTask.underWay, idle, Nat.add_zero]
  | exhaust idle none_left =>
      refine sound_of_silent ?_ hnone hfree
      simp only [ProbeTask.underWay, idle] at hcount
      exact hcount
  | cancel idle some_left stopped =>
      refine sound_of_silent ?_ hnone hfree
      simp only [ProbeTask.underWay, idle] at hcount
      exact hcount
  | drop probing stopped =>
      refine sound_of_silent ?_ hnone hfree
      simp only [ProbeTask.underWay, probing] at hcount
      exact hcount
  | answer probing =>
      refine ⟨counted_settle probing hcount, fun m hm => phase_settle_of_mapping hm, ?_⟩
      intro hj
      rw [hfree] at hj
      injection hj

/-- **A move delivers at most one mapping**: it leaves the task unresolved and its outbox empty, or
    it resolves the task and puts its mapping there. -/
theorem Move.delivers (h : w.Move prober now shutDown w') (hw : w.Sound) :
    (w'.outbox = none ∧ w'.isResolved = false) ∨
      ∃ m, w'.outbox = some m ∧ m.internal = w.task.address ∧ w'.isResolved = true := by
  have hnone := hw.outbox_eq_none h.not_ended
  cases h with
  | probe idle next running => exact Or.inl ⟨hnone, rfl⟩
  | exhaust idle none_left => exact Or.inl ⟨hnone, rfl⟩
  | cancel idle some_left stopped => exact Or.inl ⟨hnone, rfl⟩
  | drop probing stopped => exact Or.inl ⟨hnone, rfl⟩
  | @answer ends answer probing =>
      cases hmap : answer.mapping? w.task.address with
      | some m =>
          obtain ⟨hphase, hinternal⟩ := phase_settle_of_mapping (t := w.task) hmap
          exact Or.inr ⟨m, rfl, hinternal, by simpa [isResolved] using hphase⟩
      | none =>
          refine Or.inl ⟨rfl, ?_⟩
          cases hres : (w.task.settle answer).phase == .ended .resolved with
          | false => simpa [isResolved] using hres
          | true =>
              obtain ⟨m, hm⟩ := mapping_of_phase_settle w.task.address (by simpa using hres)
              rw [hmap] at hm
              injection hm

/-- What a move of the collection does to one task. -/
inductive Change (prober : Prober) (now : Nat) (shutDown : Bool) (w : Worker) : Worker → Prop where
  | moves {w' : Worker} (move : w.Move prober now shutDown w') : Change prober now shutDown w w'
  /-- Its mapping is sent, and received or lost. -/
  | sends {m : Mapping} (ready : w.outbox = some m) :
      Change prober now shutDown w { w with outbox := none }
  | joins (isOver : w.Over) : Change prober now shutDown w { w with joined := true }

theorem Change.address_eq (h : w.Change prober now shutDown w') :
    w'.task.address = w.task.address := by
  cases h with
  | moves move => exact move.address_eq
  | sends => rfl
  | joins => rfl

theorem Change.sound (h : w.Change prober now shutDown w') (hw : w.Sound) : w'.Sound := by
  cases h with
  | moves move => exact move.sound hw
  | sends ready => exact sound_of_sent ready hw
  | joins isOver => exact ⟨hw.counted, hw.found, fun _ => isOver⟩

end Worker

/-! ## All of them -/

namespace Session

/-- The mappings that the tasks have sent or are about to send, wherever they are now. -/
def sent (s : Session) : List Mapping :=
  s.received ++ s.channel ++ s.lost ++ s.workers.filterMap Worker.outbox

/-- The addresses of the tasks that have found something. -/
def resolvedAddresses (s : Session) : List IpAddr :=
  (s.workers.filter Worker.isResolved).map fun w => w.task.address

/-- **The invariant of a collection.** -/
structure Inv (locals : List IpAddr) (s : Session) : Prop where
  addresses : (s.workers.map fun w => w.task.address) = distinct locals
  sound : ∀ w ∈ s.workers, w.Sound
  balanced : (s.sent.map Mapping.internal).Perm s.resolvedAddresses
  records : s.tally.Records s.received
  rounds_le : s.rounds ≤ s.received.length + 1
  rounds_eq : s.Waiting → s.rounds = s.received.length
  joined_eq : s.joined = s.workers.countP Worker.joined
  returned : s.stage = .returned → ∀ w ∈ s.workers, w.joined = true

variable {c : Collector} {locals : List IpAddr} {s s' : Session}

theorem inv_start (c : Collector) (locals : List IpAddr) : (start c locals).Inv locals := by
  have houtbox : (start c locals).workers.filterMap Worker.outbox = [] := by
    simp [start, Worker.quiet]
  have hresolved : (start c locals).workers.filter Worker.isResolved = [] := by
    simp [start, Worker.quiet, Worker.isResolved, ProbeTask.start]
  have hjoined : (start c locals).workers.countP Worker.joined = 0 := by
    simp [start, Worker.quiet]
  refine ⟨?_, ?_, ?_, Tally.records_start _, Nat.zero_le _, fun _ => rfl, hjoined.symm, ?_⟩
  · show List.map _ (List.map _ (distinct locals)) = distinct locals
    rw [List.map_map]
    exact List.map_id' _
  · intro w hw
    obtain ⟨ip, _, rfl⟩ := List.mem_map.mp hw
    exact Worker.sound_quiet_start c.ports ip
  · rw [sent, resolvedAddresses]
    rw [houtbox, hresolved]
    exact List.Perm.refl _
  · intro hstage w hw
    simp only [start] at hstage hw
    split at hstage
    · rename_i hnone
      rw [List.isEmpty_iff.mp hnone] at hw
      exact absurd hw List.not_mem_nil
    · injection hstage

/-! ### The tasks -/

/-- A move of the collection changes one task, or none. -/
theorem Step.workers_eq_or (step : Step c s s') :
    s'.workers = s.workers ∨
      ∃ pre w w' post, s.workers = pre ++ w :: post ∧ s'.workers = pre ++ w' :: post ∧
        w.Change c.prober s.now s.isShutDown w' := by
  cases step with
  | move split moves => exact Or.inr ⟨_, _, _, _, split, rfl, .moves moves⟩
  | send split ready => exact Or.inr ⟨_, _, _, _, split, rfl, .sends ready⟩
  | lose split ready => exact Or.inr ⟨_, _, _, _, split, rfl, .sends ready⟩
  | join _ split isOver => exact Or.inr ⟨_, _, _, _, split, rfl, .joins isOver⟩
  | tick => exact Or.inl rfl
  | receive => exact Or.inl rfl
  | drained => exact Or.inl rfl
  | expire => exact Or.inl rfl
  | close => exact Or.inl rfl
  | shutDown => exact Or.inl rfl
  | finish => exact Or.inl rfl

theorem Inv.step_addresses (h : s.Inv locals) (step : Step c s s') :
    (s'.workers.map fun w => w.task.address) = distinct locals := by
  rw [← h.addresses]
  rcases step.workers_eq_or with heq | ⟨pre, w, w', post, split, split', change⟩
  · rw [heq]
  · rw [split, split']
    simp only [List.map_append, List.map_cons, change.address_eq]

/-- Where one task changes, a property of all of them has to be kept by that one. -/
theorem forall_replace {P : Worker → Prop} {ws pre post : List Worker} {w w' : Worker}
    (split : ws = pre ++ w :: post) (h : ∀ v ∈ ws, P v) (hw : P w → P w') :
    ∀ v ∈ pre ++ w' :: post, P v := by
  subst split
  intro v hv
  rcases List.mem_append.mp hv with hv | hv
  · exact h v (List.mem_append_left _ hv)
  · rcases List.mem_cons.mp hv with rfl | hv
    · exact hw (h w (List.mem_append_right _ List.mem_cons_self))
    · exact h v (List.mem_append_right _ (List.mem_cons_of_mem _ hv))

theorem Inv.step_sound (h : s.Inv locals) (step : Step c s s') : ∀ w ∈ s'.workers, w.Sound := by
  rcases step.workers_eq_or with heq | ⟨pre, w, w', post, split, split', change⟩
  · rw [heq]
    exact h.sound
  · rw [split']
    exact forall_replace split h.sound change.sound

/-! ### The balance of mappings -/

/-- How often an address occurs among the mappings sent. -/
theorem count_sent (s : Session) (ip : IpAddr) :
    (s.sent.map Mapping.internal).count ip =
      (s.received.map Mapping.internal).count ip + (s.channel.map Mapping.internal).count ip +
        (s.lost.map Mapping.internal).count ip +
        ((s.workers.filterMap Worker.outbox).map Mapping.internal).count ip := by
  simp only [sent, List.map_append, List.count_append]

/-- What a task in the middle adds to the outboxes. -/
theorem filterMap_outbox_split (pre post : List Worker) (w : Worker) :
    (pre ++ w :: post).filterMap Worker.outbox =
      pre.filterMap Worker.outbox ++ w.outbox.toList ++ post.filterMap Worker.outbox := by
  rw [List.filterMap_append, List.append_assoc]
  cases hw : w.outbox with
  | none => rw [List.filterMap_cons_none hw]; rfl
  | some m => rw [List.filterMap_cons_some hw]; rfl

/-- A task that changes but neither resolves nor is another's leaves the resolved addresses. -/
theorem resolved_replace {ws pre post : List Worker} {w : Worker} (w' : Worker)
    (split : ws = pre ++ w :: post) (hres : w'.isResolved = w.isResolved)
    (haddr : w'.task.address = w.task.address) :
    ((pre ++ w' :: post).filter Worker.isResolved).map (fun w => w.task.address) =
      (ws.filter Worker.isResolved).map fun w => w.task.address := by
  subst split
  cases h : w.isResolved with
  | false => simp only [List.filter_append, List.filter_cons, hres, h, Bool.false_eq_true, if_false]
  | true =>
      simp only [List.filter_append, List.filter_cons, hres, h, if_true, List.map_append,
        List.map_cons, haddr]

theorem Inv.step_balanced (h : s.Inv locals) (step : Step c s s') :
    (s'.sent.map Mapping.internal).Perm s'.resolvedAddresses := by
  rw [List.perm_iff_count]
  intro ip
  have hbal := List.perm_iff_count.mp h.balanced ip
  rw [count_sent] at hbal ⊢
  cases step with
  | @move pre post w w' split moves =>
      have hmem : w ∈ s.workers := split ▸ List.mem_append_right _ List.mem_cons_self
      have hw := h.sound w hmem
      have hnone := hw.outbox_eq_none moves.not_ended
      have hunresolved : w.isResolved = false := by
        simpa [Worker.isResolved] using moves.not_ended .resolved
      simp only [resolvedAddresses, split, filterMap_outbox_split, hnone, List.filter_append,
        List.filter_cons, hunresolved, Bool.false_eq_true, if_false, List.map_append,
        List.count_append, Option.toList_none, List.map_nil, List.count_nil] at hbal ⊢
      rcases moves.delivers hw with ⟨hnone', hunresolved'⟩ | ⟨m, hsome', hinternal, hresolved'⟩
      · simp only [hnone', hunresolved', Bool.false_eq_true, if_false, Option.toList_none,
          List.map_nil, List.count_nil]
        exact hbal
      · simp only [hsome', hresolved', if_true, Option.toList_some, List.map_cons, List.map_nil,
          List.count_cons, List.count_nil, hinternal, moves.address_eq]
        omega
  | @send pre post w m split ready =>
      have hsame := resolved_replace { w with outbox := none } split rfl rfl
      simp only [resolvedAddresses, hsame] at hbal ⊢
      simp only [split, filterMap_outbox_split, ready, List.map_append, List.count_append,
        Option.toList_some, Option.toList_none, List.map_cons, List.map_nil, List.count_cons,
        List.count_nil] at hbal ⊢
      omega
  | @lose pre post w m split ready =>
      have hsame := resolved_replace { w with outbox := none } split rfl rfl
      simp only [resolvedAddresses, hsame] at hbal ⊢
      simp only [split, filterMap_outbox_split, ready, List.map_append, List.count_append,
        Option.toList_some, Option.toList_none, List.map_cons, List.map_nil, List.count_cons,
        List.count_nil] at hbal ⊢
      omega
  | @join pre post w joining split isOver =>
      have hsame := resolved_replace { w with joined := true } split rfl rfl
      simp only [resolvedAddresses, hsame] at hbal ⊢
      simp only [split, filterMap_outbox_split] at hbal ⊢
      exact hbal
  | @receive m ms waiting next =>
      simp only [resolvedAddresses, next, List.map_append, List.map_cons, List.map_nil,
        List.count_append, List.count_cons, List.count_nil] at hbal ⊢
      omega
  | tick => exact hbal
  | drained => exact hbal
  | expire => exact hbal
  | close => exact hbal
  | shutDown => exact hbal
  | finish => exact hbal

/-! ### The collector -/

theorem not_waiting_stopWaiting (s : Session) : ¬s.stopWaiting.Waiting := by
  rintro ⟨_, hdone⟩
  simp [stopWaiting, Deadline.finish, Deadline.isDone] at hdone

theorem Inv.step_records (h : s.Inv locals) (step : Step c s s') :
    s'.tally.Records s'.received := by
  have hrec := h.records
  cases step with
  | receive => exact Tally.records_receive hrec c.grace s.now _
  | drained => exact ⟨hrec.table, hrec.resolved, hrec.duplicates⟩
  | expire => exact ⟨hrec.table, hrec.resolved, hrec.duplicates⟩
  | tick => exact hrec
  | move => exact hrec
  | send => exact hrec
  | lose => exact hrec
  | close => exact hrec
  | shutDown => exact hrec
  | join => exact hrec
  | finish => exact hrec

/-- Each round but the last receives a mapping. -/
theorem Inv.step_rounds (h : s.Inv locals) (step : Step c s s') :
    s'.rounds ≤ s'.received.length + 1 ∧ (s'.Waiting → s'.rounds = s'.received.length) := by
  have hle := h.rounds_le
  have heq := h.rounds_eq
  cases step with
  | @receive m ms waiting next =>
      have hrounds := heq waiting
      have hlen : (s.received ++ [m]).length = s.received.length + 1 := List.length_append
      refine ⟨?_, fun _ => ?_⟩
      · show s.rounds + 1 ≤ (s.received ++ [m]).length + 1
        omega
      · show s.rounds + 1 = (s.received ++ [m]).length
        omega
  | drained waiting =>
      have hrounds := heq waiting
      refine ⟨?_, fun hw => absurd hw (not_waiting_stopWaiting s)⟩
      show s.rounds + 1 ≤ s.received.length + 1
      omega
  | expire waiting =>
      have hrounds := heq waiting
      refine ⟨?_, fun hw => absurd hw (not_waiting_stopWaiting s)⟩
      show s.rounds + 1 ≤ s.received.length + 1
      omega
  | close => exact ⟨hle, fun hw => absurd hw.1 (by simp)⟩
  | shutDown => exact ⟨hle, fun hw => absurd hw.1 (by simp)⟩
  | finish => exact ⟨hle, fun hw => absurd hw.1 (by simp)⟩
  | tick => exact ⟨hle, heq⟩
  | move => exact ⟨hle, heq⟩
  | send => exact ⟨hle, heq⟩
  | lose => exact ⟨hle, heq⟩
  | join => exact ⟨hle, heq⟩

theorem Inv.step_joined (h : s.Inv locals) (step : Step c s s') :
    s'.joined = s'.workers.countP Worker.joined := by
  have heq := h.joined_eq
  cases step with
  | move split moves =>
      rw [split] at heq
      simp only [List.countP_append, List.countP_cons, moves.joined_eq] at heq ⊢
      exact heq
  | send split =>
      rw [split] at heq
      simp only [List.countP_append, List.countP_cons] at heq ⊢
      exact heq
  | lose split =>
      rw [split] at heq
      simp only [List.countP_append, List.countP_cons] at heq ⊢
      exact heq
  | join _ split _ unjoined =>
      rw [split] at heq
      simp only [List.countP_append, List.countP_cons, unjoined, Bool.false_eq_true, if_false,
        if_true] at heq ⊢
      omega
  | tick => exact heq
  | receive => exact heq
  | drained => exact heq
  | expire => exact heq
  | close => exact heq
  | shutDown => exact heq
  | finish => exact heq

theorem Inv.step_returned (h : s.Inv locals) (step : Step c s s') :
    s'.stage = .returned → ∀ w ∈ s'.workers, w.joined = true := by
  have hret := h.returned
  intro hstage
  cases step with
  | finish joining all => exact all
  | move split moves =>
      exact forall_replace split (hret hstage) fun hw => moves.joined_eq.trans hw
  | send split => exact forall_replace split (hret hstage) id
  | lose split => exact forall_replace split (hret hstage) id
  | join joining => exact absurd (joining.symm.trans hstage) (by simp)
  | close => injection hstage
  | shutDown => injection hstage
  | tick => exact hret hstage
  | receive => exact hret hstage
  | drained => exact hret hstage
  | expire => exact hret hstage

theorem inv_step (h : s.Inv locals) (step : Step c s s') : s'.Inv locals where
  addresses := h.step_addresses step
  sound := h.step_sound step
  balanced := h.step_balanced step
  records := h.step_records step
  rounds_le := (h.step_rounds step).1
  rounds_eq := (h.step_rounds step).2
  joined_eq := h.step_joined step
  returned := h.step_returned step

/-- **The invariant holds at every instant of every collection.** -/
theorem Reachable.inv (h : Reachable c locals s) : s.Inv locals :=
  h.induction (inv_start c locals) fun _ _ hs step => inv_step hs step

/-! ## What the balance bounds -/

theorem Inv.addresses_nodup (h : s.Inv locals) : (s.workers.map fun w => w.task.address).Nodup :=
  h.addresses ▸ nodup_distinct locals

theorem resolvedAddresses_sublist (s : Session) :
    s.resolvedAddresses.Sublist (s.workers.map fun w => w.task.address) :=
  List.filter_sublist.map _

/-- No two mappings sent are of one local address. -/
theorem Inv.sent_nodup (h : s.Inv locals) : (s.sent.map Mapping.internal).Nodup :=
  h.balanced.nodup_iff.mpr (h.addresses_nodup.sublist s.resolvedAddresses_sublist)

theorem Inv.mem_locals_of_sent (h : s.Inv locals) {m : Mapping} (hm : m ∈ s.sent) :
    m.internal ∈ locals := by
  have hres := h.balanced.subset (List.mem_map_of_mem hm)
  have haddr := s.resolvedAddresses_sublist.subset hres
  rw [h.addresses] at haddr
  exact mem_distinct.mp haddr

/-- No more mappings are sent than there are tasks. -/
theorem Inv.length_sent_le (h : s.Inv locals) : s.sent.length ≤ s.workers.length := by
  have hlen := h.balanced.length_eq
  have hle := s.resolvedAddresses_sublist.length_le
  rw [List.length_map] at hlen hle
  omega

theorem received_sublist_sent (s : Session) : s.received.Sublist s.sent := by
  rw [sent, List.append_assoc, List.append_assoc]
  exact List.sublist_append_left _ _

end Session

end NatDiscovery
