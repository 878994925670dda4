import DocWire.Proofs.Connection.Moves
import DocWire.Proofs.Decimal.Text

/-! Every request that a connection takes on waits, or its response was handed out. The balance of
the two with what was taken on is kept by every move in which no callback aborts. -/

namespace DocWire

/-- What is handed out in these events, in order. -/
def deliveries (events : List Event) : List Delivery :=
  events.filterMap Event.delivery?

@[simp] theorem deliveries_append (first rest : List Event) :
    deliveries (first ++ rest) = deliveries first ++ deliveries rest :=
  List.filterMap_append

/-- Events without a response may be put together. -/
theorem deliveries_eq_nil_append {first rest : List Event} (hFirst : deliveries first = [])
    (hRest : deliveries rest = []) : deliveries (first ++ rest) = [] := by
  rw [deliveries_append, hFirst, hRest]
  rfl

/-- The requests that are answered in these events, in order. -/
def answered (events : List Event) : List Ticket :=
  (deliveries events).map Delivery.ticket

@[simp] theorem answered_nil : answered [] = [] := rfl

@[simp] theorem answered_append (first rest : List Event) :
    answered (first ++ rest) = answered first ++ answered rest := by
  simp [answered]

@[simp] theorem answered_deliver (d : Delivery) (events : List Event) :
    answered (.deliver d :: events) = d.ticket :: answered events := rfl

@[simp] theorem answered_write (data : Bytes) (answer : Except IoError Unit)
    (events : List Event) : answered (.write data answer :: events) = answered events := rfl

@[simp] theorem answered_read (n : Nat) (deadline : Option Instant)
    (answer : Except IoError Bytes) (events : List Event) :
    answered (.read n deadline answer :: events) = answered events := rfl

@[simp] theorem answered_close (answer : Except IoError Unit) (events : List Event) :
    answered (.close answer :: events) = answered events := rfl

/-- Events without a response answer no caller. -/
theorem Connection.findSome?_responseFor? {events : List Event} (h : deliveries events = [])
    (id : String) : events.findSome? (responseFor? id) = none := by
  apply List.findSome?_eq_none_iff.2
  intro e he
  have hNone := List.filterMap_eq_nil_iff.1 h e he
  cases e with
  | deliver d => cases hNone
  | _ => rfl

/-- A response is the one that a caller waits for if it has the caller's id. -/
theorem Connection.responseFor?_deliver (id id' : String) (r : Recipient) (response : Response) :
    responseFor? id (.deliver ⟨some id', r, response⟩) =
      if id' = id ∧ r = .caller then some response else none := by
  cases r <;> simp [responseFor?]

/-- Behind events without a response, a delivery answers the caller or nobody does. -/
theorem Connection.findSome?_responseFor?_concat {events : List Event} (h : deliveries events = [])
    (d : Delivery) (id : String) :
    (events ++ [Event.deliver d]).findSome? (responseFor? id) = responseFor? id (.deliver d) := by
  rw [List.findSome?_append, findSome?_responseFor? h, Option.none_or, List.findSome?_singleton]

namespace Pending

/-- The requests of a table as tickets. -/
def tickets (p : Pending) : List Ticket :=
  p.map fun e => ⟨some e.1, e.2⟩

/-- The ids of a table. -/
def ids (p : Pending) : List String :=
  p.map (·.1)

theorem mem_ids {p : Pending} {e : String × Recipient} (h : e ∈ p) : e.1 ∈ p.ids :=
  List.mem_map_of_mem h

theorem erase_of_notMem {p : Pending} {id : String} (h : id ∉ p.ids) : Pending.erase p id = p := by
  refine List.filter_eq_self.2 ?_
  intro e he
  have hNe : e.1 ≠ id := fun hId => h (hId ▸ mem_ids he)
  simpa using hNe

theorem insert_of_notMem {p : Pending} {id : String} (h : id ∉ p.ids) (r : Recipient) :
    p.insert id r = (id, r) :: p :=
  congrArg ((id, r) :: ·) (erase_of_notMem h)

/-- Taking a request on and erasing it again leaves the table as it was. -/
theorem erase_insert {p : Pending} {id : String} (h : id ∉ p.ids) (r : Recipient) :
    (p.insert id r).erase id = p := by
  rw [insert_of_notMem h, erase, List.filter_cons_of_neg (by simp)]
  exact erase_of_notMem h

theorem notMem_ids_erase (p : Pending) (id : String) : id ∉ Pending.ids (p.erase id) := by
  intro hMem
  obtain ⟨e, he, hId⟩ := List.mem_map.1 hMem
  simpa [hId] using (List.mem_filter.1 he).2

theorem mem_of_lookup {p : Pending} {id : String} {r : Recipient} (h : p.lookup id = some r) :
    (id, r) ∈ p := by
  induction p with
  | nil => cases h
  | cons e p ih =>
      obtain ⟨id', r'⟩ := e
      by_cases hId : id = id'
      · subst hId
        rw [List.lookup_cons_self] at h
        cases h
        exact List.mem_cons_self ..
      · have hNe : (id == id') = false := by simpa using hId
        rw [List.lookup_cons, hNe] at h
        exact List.mem_cons_of_mem _ (ih h)

theorem lookup_eq_none {p : Pending} {id : String} (h : id ∉ p.ids) : p.lookup id = none := by
  cases hLookup : p.lookup id with
  | none => rfl
  | some r => exact absurd (mem_ids (mem_of_lookup hLookup)) h

/-- In a table without double ids a request is found under its id. -/
theorem lookup_of_mem {p : Pending} {id : String} {r : Recipient} (h : p.ids.Nodup)
    (hMem : (id, r) ∈ p) : p.lookup id = some r := by
  induction p with
  | nil => cases hMem
  | cons e p ih =>
      obtain ⟨id', r'⟩ := e
      obtain ⟨hFresh, hRest⟩ : id' ∉ Pending.ids p ∧ (Pending.ids p).Nodup := List.nodup_cons.1 h
      rcases List.mem_cons.1 hMem with hSame | hTail
      · cases hSame
        exact List.lookup_cons_self
      · have hNe : (id == id') = false := by
          refine beq_false_of_ne ?_
          rintro rfl
          exact hFresh (mem_ids hTail)
        rw [List.lookup_cons, hNe]
        exact ih hRest hTail

/-- Erasing a request of a table without double ids takes out that request alone. -/
theorem perm_cons_erase {p : Pending} {id : String} {r : Recipient} (h : p.ids.Nodup)
    (hLookup : p.lookup id = some r) : p.Perm ((id, r) :: Pending.erase p id) := by
  induction p with
  | nil => cases hLookup
  | cons e p ih =>
      obtain ⟨id', r'⟩ := e
      obtain ⟨hFresh, hRest⟩ : id' ∉ Pending.ids p ∧ (Pending.ids p).Nodup := List.nodup_cons.1 h
      by_cases hId : id = id'
      · subst hId
        rw [List.lookup_cons_self] at hLookup
        cases hLookup
        have hErase : Pending.erase ((id, r) :: p) id = Pending.erase p id := by simp [erase]
        rw [hErase, erase_of_notMem hFresh]
      · have hNe : (id == id') = false := by simpa using hId
        rw [List.lookup_cons, hNe] at hLookup
        have hErase : Pending.erase ((id', r') :: p) id = (id', r') :: Pending.erase p id := by
          simp [erase, Ne.symm hId]
        rw [hErase]
        exact ((ih hRest hLookup).cons _).trans (.swap ..)

theorem tickets_perm {p q : Pending} (h : p.Perm q) : p.tickets.Perm q.tickets :=
  h.map _

theorem inOrder_perm (p : Pending) : p.inOrder.Perm p :=
  List.mergeSort_perm _ _

end Pending

namespace Connection

variable {σ : Type}

/-- The table holds no number twice and only numbers that were given out, and after closing it is
empty. -/
structure Orderly (c : Connection σ) : Prop where
  distinct : c.pending.ids.Nodup
  numbered : ∀ id ∈ c.pending.ids, ∃ n < c.nextId, id = Decimal.text n
  atRest : c.closed = true → c.pending = []

theorem Orderly.fresh {c : Connection σ} (h : c.Orderly) :
    Decimal.text c.nextId ∉ c.pending.ids := by
  intro hMem
  obtain ⟨n, hLess, hText⟩ := h.numbered _ hMem
  exact absurd (Decimal.text_injective hText) (by omega)

theorem withReadChunk_orderly (readChunk : Nat) (transport : σ) :
    (withReadChunk readChunk transport).Orderly :=
  ⟨List.nodup_nil, fun _ h => absurd h List.not_mem_nil, fun _ => rfl⟩

@[simp] theorem received_pending (c : Connection σ) (answer : Except IoError Bytes) :
    (c.received answer).pending = c.pending := by
  cases answer <;> rfl

@[simp] theorem received_nextId (c : Connection σ) (answer : Except IoError Bytes) :
    (c.received answer).nextId = c.nextId := by
  cases answer <;> rfl

@[simp] theorem received_closed (c : Connection σ) (answer : Except IoError Bytes) :
    (c.received answer).closed = c.closed := by
  cases answer <;> rfl

@[simp] theorem received_transport (c : Connection σ) (answer : Except IoError Bytes) :
    (c.received answer).transport = c.transport := by
  cases answer <;> rfl

/-- A connection with the same table, counter and state of closing is as orderly. -/
theorem Orderly.of_eq {c c' : Connection σ} (h : c.Orderly) (hPending : c'.pending = c.pending)
    (hNext : c'.nextId = c.nextId) (hClosed : c'.closed = c.closed) : c'.Orderly := by
  obtain ⟨hDistinct, hNumbered, hRest⟩ := h
  refine ⟨?_, ?_, ?_⟩
  · rw [hPending]
    exact hDistinct
  · rw [hPending, hNext]
    exact hNumbered
  · rw [hPending, hClosed]
    exact hRest

variable {c c' : Connection σ} {tickets : List Ticket} {events : List Event}

/-- A request under the next number keeps the table in order. -/
theorem Orderly.request {r : Recipient} (h : c.Orderly) (hOpen : c'.closed = false)
    (hNext : c'.nextId = c.nextId + 1)
    (hPending : c'.pending = (Decimal.text c.nextId, r) :: c.pending) : c'.Orderly := by
  refine ⟨?_, ?_, ?_⟩
  · rw [hPending]
    exact List.nodup_cons.2 ⟨h.fresh, h.distinct⟩
  · intro id hMem
    rw [hPending] at hMem
    rw [hNext]
    rcases List.mem_cons.1 hMem with rfl | hMem
    · exact ⟨c.nextId, Nat.lt_succ_self _, rfl⟩
    · obtain ⟨n, hLess, hText⟩ := h.numbered id hMem
      exact ⟨n, Nat.lt_succ_of_lt hLess, hText⟩
  · intro hClosed
    rw [hOpen] at hClosed
    cases hClosed

/-- The ids given out are the next numbers, in order. -/
def Numbers (c : Connection σ) (tickets : List Ticket) (c' : Connection σ) : Prop :=
  ∃ k, c'.nextId = c.nextId + k ∧
    tickets.filterMap Ticket.id = (List.range' c.nextId k).map Decimal.text

theorem Numbers.append {c'' : Connection σ} {tickets' : List Ticket}
    (first : Numbers c tickets c') (rest : Numbers c' tickets' c'') :
    Numbers c (tickets ++ tickets') c'' := by
  obtain ⟨k, hNext, hIds⟩ := first
  obtain ⟨l, hNext', hIds'⟩ := rest
  refine ⟨k + l, ?_, ?_⟩
  · rw [hNext', hNext, Nat.add_assoc]
  · rw [List.filterMap_append, hIds, hIds', hNext, ← List.map_append, List.range'_append_1]

/-- The requests that wait. -/
def waiting (c : Connection σ) : List Ticket :=
  c.pending.tickets

/-- Nobody who waits would abort. -/
def Gentle (c : Connection σ) : Prop :=
  ∀ e ∈ c.pending, e.2.aborts = false

theorem Gentle.of_eq {c c' : Connection σ} (h : c.Gentle) (hPending : c'.pending = c.pending) :
    c'.Gentle := by
  rw [Gentle, hPending]
  exact h

/-- The accounts of a connection, given what it took on and what it did: the requests taken on have
the numbers given out, and each waits or was answered. -/
structure Accounts (c : Connection σ) (taken : List Ticket) (events : List Event) : Prop where
  orderly : c.Orderly
  gentle : c.Gentle
  balance : (c.waiting ++ answered events).Perm taken
  numbers : taken.filterMap Ticket.id = (List.range c.nextId).map Decimal.text

theorem withReadChunk_accounts (readChunk : Nat) (transport : σ) :
    Accounts (withReadChunk readChunk transport) [] [] :=
  ⟨withReadChunk_orderly readChunk transport, fun _ h => absurd h List.not_mem_nil, .refl _, rfl⟩

/-- What the other side does to the transport is of no concern to the accounts. -/
theorem Accounts.changing {taken : List Ticket} (h : Accounts c taken events) (change : σ → σ) :
    Accounts (c.changing change) taken events :=
  ⟨h.orderly.of_eq rfl rfl rfl, h.gentle, h.balance, h.numbers⟩

/-- No id is among those that wait and were answered twice. -/
theorem Accounts.distinct {taken : List Ticket} (h : Accounts c taken events) :
    ((c.waiting ++ answered events).filterMap Ticket.id).Nodup := by
  apply (h.balance.filterMap Ticket.id).nodup_iff.2
  rw [h.numbers]
  exact List.pairwise_map.2 (List.nodup_range.imp fun hNe hSame =>
    hNe (Decimal.text_injective hSame))

/-- A request with an id waits exactly if it was taken on and has not been answered. -/
theorem Accounts.waits_iff {taken : List Ticket} (h : Accounts c taken events) {id : String}
    {r : Recipient} :
    (id, r) ∈ c.pending ↔ ⟨some id, r⟩ ∈ taken ∧ ⟨some id, r⟩ ∉ answered events := by
  have hWaits : (id, r) ∈ c.pending ↔ ⟨some id, r⟩ ∈ c.waiting := by
    simp [waiting, Pending.tickets]
  rw [hWaits, ← h.balance.mem_iff, List.mem_append]
  constructor
  · intro hMem
    refine ⟨Or.inl hMem, fun hAnswered => ?_⟩
    have hDistinct := h.distinct
    rw [List.filterMap_append] at hDistinct
    exact (List.nodup_append.1 hDistinct).2.2 id (List.mem_filterMap.2 ⟨_, hMem, rfl⟩) id
      (List.mem_filterMap.2 ⟨_, hAnswered, rfl⟩) rfl
  · rintro ⟨hMem, hNot⟩
    exact hMem.resolve_right hNot

/-- At no moment is a request answered twice, or more often than it was taken on. -/
theorem Accounts.moment {taken : List Ticket} {seen rest : List Event}
    (h : Accounts c taken (seen ++ rest)) :
    ((answered seen).filterMap Ticket.id).Nodup ∧
      ∀ ticket, (answered seen).count ticket ≤ taken.count ticket := by
  have hSub : (answered seen).Sublist (c.waiting ++ answered (seen ++ rest)) := by
    rw [answered_append]
    exact (List.sublist_append_left _ _).trans (List.sublist_append_right _ _)
  constructor
  · exact h.distinct.sublist (hSub.filterMap _)
  · intro ticket
    rw [← h.balance.count_eq]
    exact hSub.count_le ticket

/-- A number under which a request was taken on is smaller than the next. -/
theorem Accounts.lt_nextId {taken : List Ticket} (h : Accounts c taken events)
    {n : Nat} {r : Recipient}
    (hTaken : ⟨some (Decimal.text n), r⟩ ∈ taken) : n < c.nextId := by
  have hId : Decimal.text n ∈ taken.filterMap Ticket.id := List.mem_filterMap.2 ⟨_, hTaken, rfl⟩
  rw [h.numbers] at hId
  obtain ⟨k, hk, hText⟩ := List.mem_map.1 hId
  rw [← Decimal.text_injective hText]
  exact List.mem_range.1 hk

/-- The counter is no larger than the number of requests taken on. -/
theorem Accounts.nextId_le {taken : List Ticket} (h : Accounts c taken events) :
    c.nextId ≤ taken.length := by
  have hNext := congrArg List.length h.numbers
  rw [List.length_map, List.length_range] at hNext
  rw [← hNext]
  exact List.length_filterMap_le ..

variable [Transport σ]

theorem Move.orderly (move : Move c tickets events c') (h : c.Orderly) : c'.Orderly := by
  cases move with
  | look => exact h.of_eq rfl rfl rfl
  | ask => exact h.of_eq rfl rfl rfl
  | read => exact h.of_eq (received_pending ..) (received_nextId ..) (received_closed ..)
  | write request r hOpen hId =>
      have hFresh : request.id ∉ c.pending.ids := hId ▸ h.fresh
      exact h.request hOpen rfl (by rw [Pending.insert_of_notMem hFresh, hId])
  | hand id r response hWaits =>
      have hSub : (c.pending.erase id).Sublist c.pending := List.filter_sublist
      refine ⟨h.distinct.sublist (hSub.map _), ?_, ?_⟩
      · intro id' hMem
        exact h.numbered id' ((hSub.map _).subset hMem)
      · intro hClosed
        rw [h.atRest hClosed] at hWaits
        cases hWaits
  | refuse => exact h
  | close => exact ⟨List.nodup_nil, fun _ h => absurd h List.not_mem_nil, fun _ => rfl⟩

theorem Course.orderly (course : Course c tickets events c') (h : c.Orderly) : c'.Orderly := by
  induction course with
  | stay c => exact h
  | last move => exact move.orderly h
  | step move calm rest ih => exact ih (move.orderly h)

/-- Handing out in which nobody aborts reaches everyone. -/
theorem deliverAll_of_calm {response : Response} {waiting : List (String × Recipient)}
    (calm : Calm (deliverAll response waiting).1) :
    (deliverAll response waiting).1 =
      waiting.map fun e => .deliver ⟨some e.1, e.2, response⟩ := by
  induction waiting with
  | nil => rfl
  | cons e waiting ih =>
      obtain ⟨id, r⟩ := e
      cases hr : r.aborts with
      | true => simp [deliverAll, hr, Event.aborts] at calm
      | false =>
          simp only [deliverAll, hr, Bool.false_eq_true, if_false, calm_cons] at calm ⊢
          rw [ih calm.2, List.map_cons]

theorem answered_map_deliver (response : Response) (p : Pending) :
    answered (p.map fun e => .deliver ⟨some e.1, e.2, response⟩) = p.tickets := by
  induction p with
  | nil => rfl
  | cons e p ih =>
      rw [List.map_cons, answered_deliver, ih]
      rfl

/-- Together with the requests answered by then, those that wait are the ones that waited before and
the ones taken on. -/
theorem Move.balance (move : Move c tickets events c') (h : c.Orderly) (calm : Calm events) :
    (c'.waiting ++ answered events).Perm (c.waiting ++ tickets) := by
  cases move with
  | look => exact .refl _
  | ask => exact .refl _
  | read =>
      rw [waiting, received_pending]
      exact .refl _
  | write request r hOpen hId =>
      have hFresh : request.id ∉ c.pending.ids := hId ▸ h.fresh
      rw [waiting, Pending.insert_of_notMem hFresh, answered_write, answered_nil, List.append_nil]
      exact (List.perm_append_singleton _ _).symm
  | hand id r response hWaits =>
      have hErase := Pending.tickets_perm (Pending.perm_cons_erase h.distinct hWaits)
      rw [answered_deliver, answered_nil, List.append_nil]
      exact (List.perm_append_singleton _ _).trans hErase.symm
  | refuse r hClosed => exact .refl _
  | close hOpen =>
      rw [answered_close, deliverAll_of_calm (calm_cons.1 calm).2, answered_map_deliver,
        List.append_nil]
      exact Pending.tickets_perm c.pending.inOrder_perm

/-- Two balances in a row: what waits in the middle is paid out by the second. -/
theorem balance_append {before middle after taken taken' paid paid' : List Ticket}
    (hFirst : (middle ++ paid).Perm (before ++ taken))
    (hRest : (after ++ paid').Perm (middle ++ taken')) :
    (after ++ (paid ++ paid')).Perm (before ++ (taken ++ taken')) := by
  have hSwap (x y z : List Ticket) : (x ++ (y ++ z)).Perm ((x ++ z) ++ y) := by
    rw [List.append_assoc]
    exact List.perm_append_comm.append_left x
  calc
    after ++ (paid ++ paid')
    _ |>.Perm ((after ++ paid') ++ paid) := hSwap _ _ _
    _ |>.Perm ((middle ++ taken') ++ paid) := hRest.append_right _
    _ |>.Perm (middle ++ (paid ++ taken')) := (hSwap _ _ _).symm
    _ |>.Perm ((middle ++ paid) ++ taken') := .of_eq (List.append_assoc ..).symm
    _ |>.Perm ((before ++ taken) ++ taken') := hFirst.append_right _
    _ |>.Perm (before ++ (taken ++ taken')) := .of_eq (List.append_assoc ..)

theorem Course.balance (course : Course c tickets events c') (h : c.Orderly)
    (calm : Calm events) : (c'.waiting ++ answered events).Perm (c.waiting ++ tickets) := by
  induction course with
  | stay c => exact .refl _
  | last move => exact move.balance h calm
  | step move calmMove rest ih =>
      rw [answered_append]
      exact balance_append (move.balance h calmMove) (ih (move.orderly h) (calm_append.1 calm).2)

theorem Move.numbers (move : Move c tickets events c') : Numbers c tickets c' := by
  cases move with
  | look => exact ⟨0, rfl, rfl⟩
  | ask => exact ⟨0, rfl, rfl⟩
  | read => exact ⟨0, received_nextId .., rfl⟩
  | write request r hOpen hId => exact ⟨1, rfl, congrArg (fun id => [id]) hId⟩
  | hand => exact ⟨0, rfl, rfl⟩
  | refuse => exact ⟨0, rfl, rfl⟩
  | close => exact ⟨0, rfl, rfl⟩

theorem Course.numbers (course : Course c tickets events c') : Numbers c tickets c' := by
  induction course with
  | stay c => exact ⟨0, rfl, rfl⟩
  | last move => exact move.numbers
  | step move calm rest ih => exact move.numbers.append ih

theorem calm_deliverAll {response : Response} {waiting : List (String × Recipient)}
    (h : ∀ e ∈ waiting, e.2.aborts = false) : Calm (deliverAll response waiting).1 := by
  induction waiting with
  | nil => exact calm_nil
  | cons e waiting ih =>
      obtain ⟨id, r⟩ := e
      have hr : r.aborts = false := h _ (List.mem_cons_self ..)
      have hRest := ih fun e he => h e (List.mem_cons_of_mem _ he)
      simp [deliverAll, hr, Event.aborts, hRest]

/-- Among recipients that do not abort every move is calm. -/
theorem Move.gentle (move : Move c tickets events c') (h : c.Gentle)
    (hTickets : ∀ ticket ∈ tickets, ticket.recipient.aborts = false) :
    Calm events ∧ c'.Gentle := by
  cases move with
  | look => exact ⟨calm_nil, h⟩
  | ask => exact ⟨calm_nil, h⟩
  | read => exact ⟨by simp [Event.aborts], by simpa [Gentle] using h⟩
  | write request r hOpen hId =>
      refine ⟨by simp [Event.aborts], ?_⟩
      intro e he
      rcases List.mem_cons.1 he with rfl | he
      · exact hTickets _ (List.mem_singleton_self _)
      · exact h e (List.mem_filter.1 he).1
  | hand id r response hWaits =>
      refine ⟨calm_cons.2 ⟨h _ (Pending.mem_of_lookup hWaits), calm_nil⟩, ?_⟩
      intro e he
      exact h e (List.mem_filter.1 he).1
  | refuse r hClosed =>
      exact ⟨calm_cons.2 ⟨hTickets _ (List.mem_singleton_self _), calm_nil⟩, h⟩
  | close hOpen =>
      refine ⟨calm_cons.2 ⟨rfl, calm_deliverAll fun e he => ?_⟩, fun e he => ?_⟩
      · exact h e (c.pending.inOrder_perm.subset he)
      · exact absurd he List.not_mem_nil

theorem Course.gentle (course : Course c tickets events c') (h : c.Gentle)
    (hTickets : ∀ ticket ∈ tickets, ticket.recipient.aborts = false) :
    Calm events ∧ c'.Gentle := by
  induction course with
  | stay c => exact ⟨calm_nil, h⟩
  | last move => exact move.gentle h hTickets
  | step move calm rest ih =>
      obtain ⟨-, hMiddle⟩ := move.gentle h fun t ht => hTickets t (List.mem_append_left _ ht)
      obtain ⟨hCalm, hEnd⟩ := ih hMiddle fun t ht => hTickets t (List.mem_append_right _ ht)
      exact ⟨calm_append.2 ⟨calm, hCalm⟩, hEnd⟩

theorem Accounts.course {taken : List Ticket} {events' : List Event} (h : Accounts c taken events)
    (course : Course c tickets events' c')
    (hTickets : ∀ ticket ∈ tickets, ticket.recipient.aborts = false) :
    Accounts c' (taken ++ tickets) (events ++ events') := by
  obtain ⟨hCalm, hGentle⟩ := course.gentle h.gentle hTickets
  refine ⟨course.orderly h.orderly, hGentle, ?_, ?_⟩
  · rw [answered_append]
    have hBefore : (c.waiting ++ answered events).Perm ([] ++ taken) := h.balance
    exact balance_append hBefore (course.balance h.orderly hCalm)
  · obtain ⟨k, hNext, hIds⟩ := course.numbers
    have hRange : List.range' 0 c.nextId ++ List.range' (0 + c.nextId) k =
        List.range' 0 (c.nextId + k) := List.range'_append_1
    rw [Nat.zero_add] at hRange
    rw [List.filterMap_append, h.numbers, hIds, hNext, ← List.map_append, List.range_eq_range',
      List.range_eq_range', hRange]

end Connection

end DocWire
