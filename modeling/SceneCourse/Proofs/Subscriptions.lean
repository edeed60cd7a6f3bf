import Mathlib.Algebra.BigOperators.Group.List.Basic
import Mathlib.Algebra.GroupWithZero.Nat
import Mathlib.Order.Bounds.Defs
import SceneCourse.Proofs.Behaviour
import SceneCourse.Proofs.Phases
import SceneCourse.Proofs.SameKey

/-! Subscriptions are what the history says. Operations on a bus are a list, the latest first. Who
is registered is read off that list: the last operation that concerns a subscription decides, and a
listener stands where its last arrival puts it. The tables of the bus follow one operation at a
time, so both are inductions on the list. In a session the operations come from everywhere, in the
middle of whatever is told; no step but these operations touches the tables. -/

namespace SceneCourse

/-! ### Histories -/

namespace Subscription

/-- A subscription is for the events of a kind, or else for all events. -/
def isFor (sub : Subscription) (kind : Option Key) : Bool :=
  match sub.kind, kind with
  | none, none => true
  | some k, some l => k.same l
  | _, _ => false

/-- One listener's subscriptions for the same events. -/
def same (sub other : Subscription) : Bool := sub.isFor other.kind && sub.listener == other.listener

end Subscription

namespace Bus

open Subscription (isFor)

namespace Operation

/-- A subscription is what the operation adds or removes, or is removed with all the others. -/
def concerns (sub : Subscription) : Operation → Bool
  | .enter other | .leave other => other.same sub
  | .clear => true

def kind? : Operation → Option Key
  | .enter sub | .leave sub => sub.kind
  | .clear => none

end Operation

def Registered (sub : Subscription) (ops : List Operation) : Prop :=
  ∃ other, ops.find? (·.concerns sub) = some (.enter other)

/-- The moments at which a subscription went from absent to present, each by the number of
operations before. -/
def arrivals (sub : Subscription) (ops : List Operation) : Set ℕ :=
  {n | ∃ op earlier, op :: earlier <:+ ops ∧ earlier.length = n ∧ ¬Registered sub earlier ∧
    Registered sub (op :: earlier)}

/-- The listeners of a kind, or else those of all events. -/
def roster (b : Bus) : Option Key → List Listener
  | none => b.forAll
  | some kind => b.listeners kind

/-- The first listener's last arrival is before the second's. -/
def CameBefore (kind : Option Key) (ops : List Operation) (l m : Listener) : Prop :=
  ∃ i j, IsGreatest (arrivals ⟨kind, l⟩ ops) i ∧ IsGreatest (arrivals ⟨kind, m⟩ ops) j ∧ i < j

/-- The subscriptions of a bus are what a history says. -/
structure Reflects (b : Bus) (ops : List Operation) : Prop where
  registered : ∀ kind l, l ∈ b.roster kind ↔ Registered ⟨kind, l⟩ ops
  ordered : ∀ kind, (b.roster kind).Pairwise (CameBefore kind ops)
  inhabited : ∀ entry ∈ b.byKind, entry.2 ≠ []
  /-- The registrations are those for all events and those of each kind that was ever named. -/
  counted : ∀ kinds : List Key, kinds.Pairwise (fun k l => k.same l = false) →
    (∀ op ∈ ops, ∀ k, op.kind? = some k → ∃ t ∈ kinds, k.same t = true) →
    b.total = b.forAll.length + (kinds.map b.count).sum

def replay (ops : List Operation) : Bus := ops.foldr (fun op b => b.perform op) {}

variable {b : Bus} {op : Operation} {ops : List Operation} {sub : Subscription} {kind : Option Key}
  {l m : Listener} {ls : List Listener} {n : ℕ}

theorem registered_cons : Registered sub (op :: ops) ↔
    if op.concerns sub then ∃ other, op = .enter other else Registered sub ops := by
  by_cases here : op.concerns sub = true <;> simp [Registered, here]

theorem not_registered_nil : ¬Registered sub [] := by simp [Registered]

/-! ### Arrivals -/

theorem mem_arrivals_cons : n ∈ arrivals sub (op :: ops) ↔
    n = ops.length ∧ ¬Registered sub ops ∧ Registered sub (op :: ops) ∨ n ∈ arrivals sub ops := by
  constructor
  · rintro ⟨now, earlier, there, rfl, came⟩
    rcases List.suffix_cons_iff.1 there with whole | before
    · obtain ⟨rfl, rfl⟩ := List.cons.inj whole
      exact Or.inl ⟨rfl, came⟩
    · exact Or.inr ⟨now, earlier, before, rfl, came⟩
  · rintro (⟨rfl, came⟩ | ⟨now, earlier, there, same, came⟩)
    · exact ⟨op, ops, List.suffix_refl _, rfl, came⟩
    · exact ⟨now, earlier, there.trans (List.suffix_cons op ops), same, came⟩

theorem lt_of_mem_arrivals (h : n ∈ arrivals sub ops) : n < ops.length := by
  obtain ⟨now, earlier, there, rfl, -⟩ := h
  have := there.length_le
  simp only [List.length_cons] at this
  omega

/-- Who is registered does not arrive. -/
theorem arrivals_of_registered (h : Registered sub ops) :
    arrivals sub (op :: ops) = arrivals sub ops := by
  ext n
  rw [mem_arrivals_cons]
  simp [h]

/-- Who comes in has its last arrival now. -/
theorem isGreatest_arrivals_now (absent : ¬Registered sub ops)
    (present : Registered sub (op :: ops)) : IsGreatest (arrivals sub (op :: ops)) ops.length := by
  refine ⟨mem_arrivals_cons.2 (Or.inl ⟨rfl, absent, present⟩), fun n arrived => ?_⟩
  have := lt_of_mem_arrivals arrived
  simp only [List.length_cons] at this
  omega

theorem exists_arrival (h : Registered sub ops) : ∃ n, IsGreatest (arrivals sub ops) n := by
  induction ops with
  | nil => exact absurd h not_registered_nil
  | cons op ops ih =>
    by_cases before : Registered sub ops
    · obtain ⟨n, last⟩ := ih before
      exact ⟨n, arrivals_of_registered before ▸ last⟩
    · exact ⟨ops.length, isGreatest_arrivals_now before h⟩

/-! ### One operation -/

/-- What an operation does to the listeners of a kind, or of all events. -/
def Operation.act (kind : Option Key) (op : Operation) (ls : List Listener) : List Listener :=
  match op with
  | .enter sub => if sub.isFor kind then Bus.enter sub.listener ls else ls
  | .leave sub => if sub.isFor kind then ls.erase sub.listener else ls
  | .clear => []

theorem listeners_on (k l : Key) (x : Listener) :
    (b.on k x).listeners l = if k.same l then enter x (b.listeners l) else b.listeners l := by
  show ((b.byKind.set k _).get? l).getD [] = _
  rw [Entries.get?_set]
  by_cases asked : k.same l = true
  · rw [if_pos asked, if_pos asked, Option.getD_some, listeners, Entries.get?_of_same asked]
    rfl
  · rw [if_neg asked, if_neg asked]
    rfl

theorem listeners_off (k l : Key) (x : Listener) :
    (b.off k x).listeners l = if k.same l then (b.listeners l).erase x else b.listeners l := by
  have alike (asked : k.same l = true) : b.listeners k = b.listeners l := by
    rw [listeners, Entries.get?_of_same asked, listeners]
  unfold off
  split
  next gone =>
    show (Entries.get? l (b.byKind.filter _)).getD [] = _
    rw [Entries.get?_drop]
    by_cases asked : k.same l = true
    · rw [if_pos asked, if_pos asked, ← alike asked, gone]
      rfl
    · rw [if_neg asked, if_neg asked]
      rfl
  next =>
    show ((b.byKind.set k _).get? l).getD [] = _
    rw [Entries.get?_set]
    by_cases asked : k.same l = true
    · rw [if_pos asked, if_pos asked, ← alike asked]
      rfl
    · rw [if_neg asked, if_neg asked]
      rfl

theorem forAll_off (k : Key) (x : Listener) : (b.off k x).forAll = b.forAll := by
  unfold off
  split <;> rfl

theorem asked_off (k : Key) (x : Listener) : (b.off k x).asked = .leave ⟨some k, x⟩ :: b.asked := by
  unfold off
  split <;> rfl

theorem roster_perform (b : Bus) (op : Operation) (kind : Option Key) :
    (b.perform op).roster kind = op.act kind (b.roster kind) := by
  rcases op with ⟨_ | k, x⟩ | ⟨_ | k, x⟩ | _ <;> rcases kind with _ | l
  · rfl
  · rfl
  · rfl
  · exact listeners_on k l x
  · rfl
  · rfl
  · exact forAll_off k x
  · exact listeners_off k l x
  · rfl
  · rfl

theorem asked_perform (b : Bus) (op : Operation) : (b.perform op).asked = op :: b.asked := by
  rcases op with ⟨_ | k, x⟩ | ⟨_ | k, x⟩ | _
  · rfl
  · rfl
  · rfl
  · exact asked_off k x
  · rfl

theorem asked_replay (ops : List Operation) : (replay ops).asked = ops := by
  induction ops with
  | nil => rfl
  | cons op ops ih => exact (asked_perform _ op).trans (congrArg (op :: ·) ih)

theorem mem_enter : l ∈ enter m ls ↔ m = l ∨ l ∈ ls := by
  unfold enter
  split
  next there =>
    constructor
    · exact Or.inr
    · rintro (rfl | old)
      · exact List.contains_iff_mem.1 there
      · exact old
  next => simp [or_comm, eq_comm]

/-- After an operation those are registered whom it registers, and those whom it does not
concern. -/
theorem mem_act (once : ls.Nodup) : l ∈ op.act kind ls ↔
    if op.concerns ⟨kind, l⟩ then ∃ other, op = .enter other else l ∈ ls := by
  cases op with
  | enter sub =>
    by_cases mine : sub.isFor kind = true <;> by_cases who : sub.listener = l <;>
      simp [Operation.act, Operation.concerns, Subscription.same, mine, who, mem_enter]
  | leave sub =>
    by_cases mine : sub.isFor kind = true <;> by_cases who : sub.listener = l
    · simp [Operation.act, Operation.concerns, Subscription.same, mine, who, once.not_mem_erase]
    · simp [Operation.act, Operation.concerns, Subscription.same, mine, who,
        List.mem_erase_of_ne (Ne.symm who)]
    · simp [Operation.act, Operation.concerns, Subscription.same, mine]
    · simp [Operation.act, Operation.concerns, Subscription.same, mine]
  | clear => simp [Operation.act, Operation.concerns]

/-- An operation takes listeners out, or puts a new one at the end. -/
theorem act_cases (kind : Option Key) (op : Operation) (ls : List Listener) :
    (op.act kind ls).Sublist ls ∨ ∃ l, l ∉ ls ∧ op.act kind ls = ls ++ [l] := by
  cases op with
  | enter sub =>
    rw [Operation.act, Bus.enter]
    split
    next =>
      by_cases there : ls.contains sub.listener = true
      · rw [if_pos there]
        exact Or.inl (List.Sublist.refl ls)
      · rw [if_neg there]
        exact Or.inr ⟨sub.listener, fun member => there (List.contains_iff_mem.2 member), rfl⟩
    next => exact Or.inl (List.Sublist.refl ls)
  | leave sub =>
    rw [Operation.act]
    split
    next => exact Or.inl List.erase_sublist
    next => exact Or.inl (List.Sublist.refl ls)
  | clear => exact Or.inl (List.nil_sublist ls)

/-! ### Who is registered, and in which order -/

theorem proper_replay (ops : List Operation) : (replay ops).Proper := by
  induction ops with
  | nil => exact proper_empty
  | cons op ops ih => exact ih.perform op

theorem nodup_roster (ops : List Operation) (kind : Option Key) :
    ((replay ops).roster kind).Nodup := by
  cases kind with
  | none => exact (proper_replay ops).forAll
  | some k => exact (proper_replay ops).listeners k

theorem mem_roster_iff (ops : List Operation) :
    l ∈ (replay ops).roster kind ↔ Registered ⟨kind, l⟩ ops := by
  induction ops with
  | nil =>
    have nobody : (replay []).roster kind = [] := by cases kind <;> rfl
    simp [nobody, not_registered_nil]
  | cons op ops ih =>
    show l ∈ ((replay ops).perform op).roster kind ↔ _
    rw [roster_perform, mem_act (nodup_roster ops kind), registered_cons, ih]

theorem pairwise_roster (kind : Option Key) (ops : List Operation) :
    ((replay ops).roster kind).Pairwise (CameBefore kind ops) := by
  induction ops with
  | nil =>
    have nobody : (replay []).roster kind = [] := by cases kind <;> rfl
    rw [nobody]
    exact List.Pairwise.nil
  | cons op ops ih =>
    have stays : ((replay ops).roster kind).Pairwise (CameBefore kind (op :: ops)) := by
      refine List.Pairwise.imp_of_mem ?_ ih
      rintro l m hl hm ⟨i, j, first, second, earlier⟩
      rw [← arrivals_of_registered ((mem_roster_iff ops).1 hl)] at first
      rw [← arrivals_of_registered ((mem_roster_iff ops).1 hm)] at second
      exact ⟨i, j, first, second, earlier⟩
    have behind : (replay (op :: ops)).roster kind = op.act kind ((replay ops).roster kind) :=
      roster_perform _ op kind
    rcases act_cases kind op ((replay ops).roster kind) with fewer | ⟨x, new, more⟩
    · rw [behind]
      exact stays.sublist fewer
    · rw [behind, more]
      refine List.pairwise_append.2 ⟨stays, List.pairwise_singleton _ _, fun l hl y hy => ?_⟩
      obtain rfl := List.mem_singleton.1 hy
      have present : Registered ⟨kind, y⟩ (op :: ops) := by
        rw [← mem_roster_iff, behind, more]
        exact List.mem_append_right _ hy
      obtain ⟨i, first⟩ := exists_arrival ((mem_roster_iff ops).1 hl)
      refine ⟨i, ops.length, ?_, isGreatest_arrivals_now
        (mt (mem_roster_iff ops).2 new) present, ?_⟩
      · exact arrivals_of_registered ((mem_roster_iff ops).1 hl) ▸ first
      · exact lt_of_mem_arrivals first.1

/-! ### The tables -/

/-- The lists of a bus: one for each kind, none of them empty, all of kinds that were named. -/
structure Tidy (b : Bus) : Prop where
  separate : b.byKind.Separate
  inhabited : ∀ entry ∈ b.byKind, entry.2 ≠ []
  named : ∀ entry ∈ b.byKind, ∃ op ∈ b.asked, op.kind? = some entry.1

theorem Tidy.set {k : Key} (h : b.Tidy) (some_ : ls ≠ []) (names : op.kind? = some k) :
    ({ b with byKind := b.byKind.set k ls }.record op).Tidy where
  separate := h.separate.set
  inhabited entry member := by
    rcases Entries.mem_set member with new | old
    · exact new ▸ some_
    · exact h.inhabited entry old
  named entry member := by
    rcases Entries.key_of_mem_set member with new | ⟨f, old, same⟩
    · exact ⟨op, List.mem_cons_self, new ▸ names⟩
    · obtain ⟨before, asked, named⟩ := h.named f old
      exact ⟨before, List.mem_cons_of_mem op asked, same ▸ named⟩

theorem Tidy.perform (h : b.Tidy) (op : Operation) : (b.perform op).Tidy := by
  have elsewhere (forAll : List Listener) (op : Operation) : ({ b with forAll }.record op).Tidy :=
    ⟨h.separate, h.inhabited, fun entry member => (h.named entry member).imp fun before asked =>
      ⟨List.mem_cons_of_mem op asked.1, asked.2⟩⟩
  cases op with
  | enter sub =>
    obtain ⟨_ | k, x⟩ := sub
    · exact elsewhere _ _
    · have there : x ∈ enter x (b.listeners k) := mem_enter.2 (Or.inl rfl)
      exact h.set (List.ne_nil_of_mem there) rfl
  | leave sub =>
    obtain ⟨_ | k, x⟩ := sub
    · exact elsewhere _ _
    · simp only [Bus.perform, off]
      split
      next =>
        refine ⟨h.separate.drop, fun entry member => h.inhabited entry (List.mem_filter.1 member).1,
          fun entry member => ?_⟩
        obtain ⟨before, asked, named⟩ := h.named entry (List.mem_filter.1 member).1
        exact ⟨before, List.mem_cons_of_mem _ asked, named⟩
      next someone => exact h.set someone rfl
  | clear =>
    exact ⟨List.Pairwise.nil, fun _ member => (nomatch member), fun _ member => (nomatch member)⟩

theorem tidy_replay (ops : List Operation) : (replay ops).Tidy := by
  induction ops with
  | nil =>
    exact ⟨List.Pairwise.nil, fun _ member => (nomatch member), fun _ member => (nomatch member)⟩
  | cons op ops ih => exact ih.perform op

/-- A number that is there once in a sum with nothing else. -/
theorem sum_single {kinds : List Key} {k t : Key}
    (apart : kinds.Pairwise fun k l => k.same l = false) (member : t ∈ kinds)
    (same : k.same t = true) (c : ℕ) : (kinds.map fun u => if k.same u then c else 0).sum = c := by
  induction kinds with
  | nil => exact absurd member List.not_mem_nil
  | cons u kinds ih =>
    obtain ⟨others, rest⟩ := List.pairwise_cons.1 apart
    rcases List.mem_cons.1 member with rfl | later
    · have nowhere : ∀ v ∈ kinds, k.same v = false := fun v hv => by
        rw [Key.same_left same]
        exact others v hv
      rw [List.map_cons, if_pos same, List.map_congr_left fun v hv => if_neg
        (by simp [nowhere v hv])]
      simp
    · have apart' : k.same u = false := by
        rw [Key.same_left same, Key.same_comm]
        exact others t later
      rw [List.map_cons, List.sum_cons, ih rest later, if_neg (by simp [apart']), Nat.zero_add]

/-- Where each list has one kind, counting by kinds counts each list once. -/
theorem sum_counts {es : Entries (List Listener)} (separate : es.Separate) {kinds : List Key}
    (apart : kinds.Pairwise fun k l => k.same l = false)
    (complete : ∀ e ∈ es, ∃ t ∈ kinds, e.1.same t = true) :
    (kinds.map fun t => ((es.get? t).getD []).length).sum = (es.flatMap (·.2)).length := by
  induction es with
  | nil => simp [Entries.get?]
  | cons e es ih =>
    obtain ⟨k, ls⟩ := e
    obtain ⟨others, rest⟩ := List.pairwise_cons.1 separate
    obtain ⟨t, member, same⟩ := complete _ List.mem_cons_self
    have split (u : Key) : (((Entries.get? u ((k, ls) :: es)).getD []).length) =
        (if k.same u then ls.length else 0) + ((Entries.get? u es).getD []).length := by
      rw [Entries.get?]
      by_cases mine : k.same u = true
      · have missing : Entries.get? u es = none := Entries.get?_eq_none fun f hf => by
          rw [← Key.same_right mine, Key.same_comm]
          exact others f hf
        rw [if_pos mine, if_pos mine, missing]
        rfl
      · rw [if_neg mine, if_neg mine, Nat.zero_add]
    rw [List.map_congr_left fun u _ => split u, List.sum_map_add, sum_single apart member same,
      ih rest fun f hf => complete f (List.mem_cons_of_mem _ hf), List.flatMap_cons,
        List.length_append]

/-- For every history, the subscriptions are what it says. -/
theorem reflects_replay (ops : List Operation) : (replay ops).Reflects ops where
  registered _ _ := mem_roster_iff ops
  ordered kind := pairwise_roster kind ops
  inhabited := (tidy_replay ops).inhabited
  counted kinds apart complete := by
    refine congrArg ((replay ops).forAll.length + ·)
      (sum_counts (tidy_replay ops).separate apart fun e he => ?_).symm
    obtain ⟨op, asked, names⟩ := (tidy_replay ops).named e he
    rw [asked_replay] at asked
    exact complete op asked e.1 names

end Bus

namespace Session

open Step (Keeps MadeOf)

variable {η : Type}

/-! ### Sessions -/

/-- What a host can do to a session, in the middle of whatever the session is doing. Subscriptions
come and go by operations of the bus, and all else that it does leaves them alone, at least where
they are what their history says. -/
inductive Dealing (emit : Emitter η) : Step (Session η) Unit → Prop where
  | emit (e : Event) : Dealing emit (emit e)
  | ask (f : Session η → Bus.Operation) :
    Dealing emit (Step.update fun s => { s with bus := s.bus.perform (f s) })
  | reset : Dealing emit reset
  | aside {x : Step (Session η) Unit} (h : ∀ s, s.bus.Reflects s.bus.asked → (x s).2.bus = s.bus) :
    Dealing emit x

/-- The subscriptions come from their history, and this goes on from an earlier one. -/
def Recorded (was : List Bus.Operation) (b : Bus) : Prop := b = .replay b.asked ∧ was <:+ b.asked

variable {was : List Bus.Operation} {b : Bus}

theorem Recorded.perform (h : Recorded was b) (op : Bus.Operation) :
    Recorded was (b.perform op) := by
  obtain ⟨same, later⟩ := h
  rw [Recorded, Bus.asked_perform]
  exact ⟨congrArg (·.perform op) same, later.trans (List.suffix_cons op _)⟩

theorem Recorded.reflects (h : Recorded was b) : b.Reflects b.asked := by
  have whole := Bus.reflects_replay b.asked
  rwa [← h.1] at whole

theorem inward_recorded : Inward fun s : Session η => Recorded was s.bus where
  toFirm := firm_surroundings fun v => Recorded was v.bus
  history _ _ h := h
  moves _ _ h := h

theorem entering_recorded : Entering fun s : Session η => Recorded was s.bus :=
  entering_surroundings fun v => Recorded was v.bus

theorem keeps_reset_recorded : Keeps (fun s : Session η => Recorded was s.bus) reset :=
  Keeps.bind (inward_recorded.write _ _ _ _) fun _ => Keeps.update fun _ h =>
    (h.perform .clear).perform (.enter ⟨none, .course⟩)

theorem governs_recorded :
    Governs (fun s : Session η => Recorded was s.bus) (fun _ => True) Dealing where
  toInward := inward_recorded
  guided _ _ _ _ := fun _ _ => trivial
  enter id _ := entering_recorded.enterScene id
  calls emit he x called := by
    cases called with
    | emit e => exact he e
    | ask f => exact Keeps.update fun s h => h.perform (f s)
    | reset => exact keeps_reset_recorded
    | aside alone =>
      intro s h
      have same : (x s).2.bus = s.bus := alone s h.reflects
      exact same ▸ h

/-- The subscriptions are what the history says, after every sequence of operations; and so they are
in every session whose host deals with them by operations, wherever these come from, with all
operations of a run added to the history. -/
theorem subscriptions_run {host : Host η} (made : host.MadeOf Dealing) (nesting : Nat)
    {run : Step (Session η) Unit}
    (asked : run.MadeOf fun x => Demand (fun _ _ => true) host (emit host nesting) x ∨
      Dealing (emit host nesting) x)
    (s : Session η) (begun : s.bus = .replay s.bus.asked) {t : Session η} (behind : t = (run s).2) :
    (∀ ops, (Bus.replay ops).asked = ops ∧ (Bus.replay ops).Reflects ops) ∧
      s.bus.asked <:+ t.bus.asked ∧ t.bus.Reflects t.bus.asked := by
  subst behind
  have governs : Governs (fun t : Session η => Recorded s.bus.asked t.bus)
      (fun _ => True) Dealing := governs_recorded
  have recorded : Recorded s.bus.asked (run s).2.bus := by
    refine asked.keeps (I := fun t => Recorded s.bus.asked t.bus)
      (fun x called => ?_) s ⟨begun, List.suffix_refl _⟩
    rcases called with demand | dealing
    · cases demand with
      | operation operation => exact governs.operation made (fun _ _ _ h _ => h) nesting operation
      | load c => exact Keeps.looking fun t => entering_recorded.loadCourse c (fun _ h => h) t
      | reset => exact keeps_reset_recorded
      | destroy => exact Keeps.bind keeps_reset_recorded fun _ => governs.write _ _ _ _
    · exact governs.calls _ (governs.emit made nesting) x dealing
  exact ⟨fun ops => ⟨Bus.asked_replay ops, Bus.reflects_replay ops⟩, recorded.2, recorded.reflects⟩

def restless : Host Unit where
  onScene := none
  onState := none
  onUi := none
  onEvent _ name _ := do
    if name = "ear" then
      Step.update fun s => { s with bus := s.bus.perform (.leave ⟨none, .host name⟩) }
      Step.update fun s => { s with bus := s.bus.perform (.enter ⟨none, .host name⟩) }
    Step.fail (.host "deaf")

def restlessWalk : Step (Session Unit) Unit := do
  Step.update fun s => { s with bus := s.bus.perform (.enter ⟨none, .host "ear"⟩) }
  Step.update fun s => { s with bus := s.bus.perform (.enter ⟨none, .host "eye"⟩) }
  emit restless 5 (.sceneEnter "hall")

/-- In the end the other one is in front, since the restless listener's last arrival is the later
one. -/
theorem subscriptions_run_restless : let b := (restlessWalk (fresh {} {} ())).2.bus
    b.forAll = [.course, .host "eye", .host "ear"] ∧ b.asked.length = 5 ∧ b.Reflects b.asked := by
  have made : restless.MadeOf Dealing := by
    refine ⟨nofun, nofun, nofun, fun emit name e => ?_⟩
    show MadeOf _ (if name = "ear" then _ else _)
    split
    next => exact .andThen (.call (.ask _)) (.andThen (.call (.ask _)) (.fail _))
    next => exact .fail _
  have asked : restlessWalk.MadeOf fun x => Demand (fun _ _ => true) restless (emit restless 5) x ∨
      Dealing (emit restless 5) x :=
    .andThen (.call (.inr (.ask _))) (.andThen (.call (.inr (.ask _))) (.call (.inr (.emit _))))
  exact ⟨by decide +kernel, by decide +kernel, (subscriptions_run made 5 asked _ rfl rfl).2.2⟩

end Session

end SceneCourse
