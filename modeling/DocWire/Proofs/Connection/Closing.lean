import DocWire.Proofs.Connection.ExactlyOnce

/-! Closing hands out its responses in the order of the numbers and stops at the first callback that
aborts, when the table has been emptied already. Requests are lost in this way and in no other. -/

namespace DocWire

namespace Pending

/-- Written numbers are in the order of the numbers. -/
theorem idPrecedes_text (m n : Nat) :
    idPrecedes (Decimal.text m) (Decimal.text n) = decide (m ≤ n) := by
  have hLe : Decimal.text m ≤ Decimal.text n ↔ ¬ Decimal.digits n < Decimal.digits m := by
    rw [← Decimal.text_toList, ← Decimal.text_toList]
    exact Iff.rfl
  have hLength (k : Nat) : (Decimal.text k).length = (Decimal.digits k).length := by
    rw [← String.length_toList, Decimal.text_toList]
  rw [Bool.eq_iff_iff]
  simp only [idPrecedes, hLength, hLe, Bool.or_eq_true, Bool.and_eq_true, decide_eq_true_eq]
  by_cases hSame : (Decimal.digits m).length = (Decimal.digits n).length
  · simp [hSame, Decimal.digits_lt_iff hSame.symm]
  · by_cases h : m ≤ n
    · have hShort : (Decimal.digits m).length < (Decimal.digits n).length :=
        Nat.lt_of_le_of_ne (Decimal.length_digits_le h) hSame
      simp [hShort, h]
    · have hLong := Decimal.length_digits_le (Nat.le_of_not_le h)
      simp [Nat.not_lt.2 hLong, hSame, h]

theorem idPrecedes_trans {a b c : String} (hab : idPrecedes a b = true)
    (hbc : idPrecedes b c = true) : idPrecedes a c = true := by
  simp only [idPrecedes, Bool.or_eq_true, Bool.and_eq_true, decide_eq_true_eq] at *
  rcases hab with hab | ⟨hab, hLe⟩ <;> rcases hbc with hbc | ⟨hbc, hLe'⟩
  · exact Or.inl (by omega)
  · exact Or.inl (by omega)
  · exact Or.inl (by omega)
  · exact Or.inr ⟨hab.trans hbc, String.le_trans hLe hLe'⟩

theorem idPrecedes_total (a b : String) : (idPrecedes a b || idPrecedes b a) = true := by
  simp only [idPrecedes, Bool.or_eq_true, Bool.and_eq_true, decide_eq_true_eq]
  rcases Nat.lt_trichotomy a.length b.length with h | h | h
  · exact Or.inl (Or.inl h)
  · rcases String.le_total a b with hLe | hLe
    · exact Or.inl (Or.inr ⟨h, hLe⟩)
    · exact Or.inr (Or.inr ⟨h.symm, hLe⟩)
  · exact Or.inr (Or.inl h)

theorem inOrder_pairwise (p : Pending) :
    p.inOrder.Pairwise fun a b => idPrecedes a.1 b.1 = true := by
  have hTrans (a b c : String × Recipient) (hab : idPrecedes a.1 b.1 = true)
      (hbc : idPrecedes b.1 c.1 = true) : idPrecedes a.1 c.1 = true := idPrecedes_trans hab hbc
  have hTotal (a b : String × Recipient) :
      (idPrecedes a.1 b.1 || idPrecedes b.1 a.1) = true := idPrecedes_total a.1 b.1
  exact List.pairwise_mergeSort hTrans hTotal p

/-- Two requests that stand in the wrong order change places. -/
theorem inOrder_pair {a b : String × Recipient} (h : idPrecedes b.1 a.1 = false) :
    inOrder [b, a] = [a, b] := by
  simp [inOrder, List.mergeSort, List.MergeSort.Internal.splitInTwo, h]

theorem ids_append (p q : Pending) : ids (p ++ q) = p.ids ++ q.ids :=
  List.map_append

end Pending

namespace Connection

theorem mem_answered_deliverAll {response : Response} {front back : List (String × Recipient)}
    (e : String × Recipient) (h : ∀ f ∈ front, f.2.aborts = false) :
    ⟨some e.1, e.2⟩ ∈ answered (deliverAll response (front ++ e :: back)).1 := by
  induction front with
  | nil =>
      rw [List.nil_append, deliverAll]
      dsimp only
      split <;> exact List.mem_cons_self ..
  | cons f front ih =>
      have hf : f.2.aborts = false := h f (List.mem_cons_self ..)
      have hRest := ih fun f hf => h f (List.mem_cons_of_mem _ hf)
      rw [List.cons_append, deliverAll]
      simp only [hf, Bool.false_eq_true, if_false, answered_deliver]
      exact List.mem_cons_of_mem _ hRest

/-- Nothing is handed out behind a callback that aborts. -/
theorem mem_of_mem_answered_deliverAll {response : Response}
    {front back : List (String × Recipient)} {t : Ticket}
    (h : ∃ f ∈ front, f.2.aborts = true)
    (hMem : t ∈ answered (deliverAll response (front ++ back)).1) :
    t ∈ Pending.tickets front := by
  induction front with
  | nil =>
      obtain ⟨f, hf, -⟩ := h
      cases hf
  | cons f front ih =>
      obtain ⟨id, r⟩ := f
      rw [List.cons_append, deliverAll] at hMem
      cases hr : r.aborts with
      | true =>
          simp only [hr, if_true, answered_deliver, answered_nil] at hMem
          obtain rfl := List.mem_singleton.1 hMem
          exact List.mem_cons_self ..
      | false =>
          simp only [hr, Bool.false_eq_true, if_false, answered_deliver] at hMem
          rcases List.mem_cons.1 hMem with rfl | hMem
          · exact List.mem_cons_self ..
          · have hFront : ∃ f ∈ front, f.2.aborts = true := by
              obtain ⟨f, hf, hAborts⟩ := h
              rcases List.mem_cons.1 hf with rfl | hf
              · rw [hr] at hAborts
                cases hAborts
              · exact ⟨f, hf, hAborts⟩
            exact List.mem_cons_of_mem _ (ih hFront hMem)

variable {σ : Type}

/-- A request with a smaller number than `n` waits whose callback aborts. -/
def Blocked (c : Connection σ) (n : Nat) : Prop :=
  ∃ m < n, ∃ r, (Decimal.text m, r) ∈ c.pending ∧ r.aborts = true

/-- Closing reaches the requests that do not wait behind a callback that aborts. -/
theorem mem_answered_closing_iff {c : Connection σ} (h : c.Orderly) {n : Nat} {r : Recipient}
    (hWaits : (Decimal.text n, r) ∈ c.pending) (response : Response) :
    ⟨some (Decimal.text n), r⟩ ∈ answered (deliverAll response c.pending.inOrder).1 ↔
      ¬ c.Blocked n := by
  have hPerm := c.pending.inOrder_perm
  have hSorted := c.pending.inOrder_pairwise
  have hDistinct : (Pending.ids c.pending.inOrder).Nodup := (hPerm.map _).nodup_iff.2 h.distinct
  obtain ⟨front, back, hSplit⟩ := List.append_of_mem (hPerm.mem_iff.2 hWaits)
  have hMem (e : String × Recipient) :
      e ∈ c.pending ↔ e ∈ front ∨ e = (Decimal.text n, r) ∨ e ∈ back := by
    rw [← hPerm.mem_iff, hSplit, List.mem_append, List.mem_cons]
  rw [hSplit] at hSorted hDistinct ⊢
  rw [Pending.ids_append] at hDistinct
  obtain ⟨-, hBehind, hAhead⟩ := List.pairwise_append.1 hSorted
  have hTwice := (List.nodup_append.1 hDistinct).2.2
  constructor
  · rintro hAnswered ⟨m, hLess, r', hWaits', hAborts⟩
    -- the one that aborts stands in front, and nothing behind it is reached
    have hFront : (Decimal.text m, r') ∈ front := by
      rcases (hMem _).1 hWaits' with hFront | hSame | hBack
      · exact hFront
      · have hText := Decimal.text_injective (congrArg Prod.fst hSame)
        omega
      · have hLe := (List.pairwise_cons.1 hBehind).1 _ hBack
        rw [Pending.idPrecedes_text] at hLe
        have hLe' := of_decide_eq_true hLe
        omega
    have hTicket := mem_of_mem_answered_deliverAll ⟨_, hFront, hAborts⟩ hAnswered
    obtain ⟨f, hf, hSame⟩ := List.mem_map.1 hTicket
    have hId : f.1 = Decimal.text n := Option.some.inj (congrArg Ticket.id hSame)
    exact hTwice _ (Pending.mem_ids hf) _ (List.mem_cons_self ..) hId
  · intro hFree
    refine mem_answered_deliverAll (Decimal.text n, r) ?_
    intro f hf
    have hLe := hAhead f hf _ (List.mem_cons_self ..)
    obtain ⟨m, -, hText⟩ := h.numbered f.1 (Pending.mem_ids ((hMem f).2 (Or.inl hf)))
    rw [hText, Pending.idPrecedes_text] at hLe
    have hNe : f.1 ≠ Decimal.text n := hTwice _ (Pending.mem_ids hf) _ (List.mem_cons_self ..)
    have hLess : m < n := by
      refine Nat.lt_of_le_of_ne (of_decide_eq_true hLe) ?_
      rintro rfl
      exact hNe hText
    cases hAborts : f.2.aborts with
    | false => rfl
    | true => exact absurd ⟨m, hLess, f.2, hText ▸ (hMem f).2 (Or.inl hf), hAborts⟩ hFree

/-- The transport is closed in these events before the ticket's response is handed out. -/
def ClosesOver (events : List Event) (t : Ticket) : Prop :=
  ∃ before answer after, events = before ++ .close answer :: after ∧ t ∉ answered before

theorem calm_iff_answered {events : List Event} :
    Calm events ↔ ∀ t ∈ answered events, t.recipient.aborts = false := by
  induction events with
  | nil => simp
  | cons e events ih =>
      rw [calm_cons, ih]
      cases e with
      | deliver d => simp [Event.aborts, Delivery.ticket]
      | write data answer => simp [Event.aborts]
      | read n deadline answer => simp [Event.aborts]
      | close answer => simp [Event.aborts]

variable [Transport σ] {c c' : Connection σ} {tickets : List Ticket} {events : List Event}

/-- A move that does not close the transport answers a waiting request or lets it wait. -/
theorem Move.keeps (move : Move c tickets events c') (hOpen : ∀ answer, .close answer ∉ events)
    (hOrderly : c.Orderly) {e : String × Recipient} (hWaits : e ∈ c.pending) :
    e ∈ c'.pending ∨ ⟨some e.1, e.2⟩ ∈ answered events := by
  cases move with
  | look => exact Or.inl hWaits
  | ask => exact Or.inl hWaits
  | read => exact Or.inl (by simpa using hWaits)
  | write request r hOpen hId =>
      rw [Pending.insert_of_notMem (hId ▸ hOrderly.fresh)]
      exact Or.inl (List.mem_cons_of_mem _ hWaits)
  | hand id r response hLookup =>
      by_cases hSame : e.1 = id
      · subst hSame
        have hFound := Pending.lookup_of_mem hOrderly.distinct hWaits
        rw [hLookup] at hFound
        obtain rfl := Option.some.inj hFound
        exact Or.inr (List.mem_cons_self ..)
      · exact Or.inl (List.mem_filter.2 ⟨hWaits, by simpa using hSame⟩)
  | refuse => exact Or.inl hWaits
  | close => exact absurd (List.mem_cons_self ..) (hOpen _)

/-- What waits after a move waited before it, or has the number that was the next. -/
theorem Move.waited (move : Move c tickets events c') {e : String × Recipient}
    (hWaits : e ∈ c'.pending) : e ∈ c.pending ∨ e.1 = Decimal.text c.nextId := by
  cases move with
  | look => exact Or.inl hWaits
  | ask => exact Or.inl hWaits
  | read => exact Or.inl (by simpa using hWaits)
  | write request r hOpen hId =>
      rcases List.mem_cons.1 hWaits with rfl | hWaits
      · exact Or.inr hId
      · exact Or.inl (List.mem_filter.1 hWaits).1
  | hand => exact Or.inl (List.mem_filter.1 hWaits).1
  | refuse => exact Or.inl hWaits
  | close => cases hWaits

/-- A move closes the transport first, or not at all. -/
theorem Move.closes (move : Move c tickets events c') :
    (∃ answer, events = .close answer :: (deliverAll .connectionClosed c.pending.inOrder).1 ∧
      c'.pending = []) ∨
    ∀ answer, .close answer ∉ events := by
  cases move with
  | close => exact Or.inl ⟨_, rfl, rfl⟩
  | _ => exact Or.inr (by simp)

/-- A calm move that does not close the transport leaves a waiting request behind the same
callbacks. -/
theorem Move.blocked_iff (move : Move c tickets events c') (calm : Calm events)
    (hOpen : ∀ answer, .close answer ∉ events) (hOrderly : c.Orderly) {n : Nat}
    (hn : n < c.nextId) : c'.Blocked n ↔ c.Blocked n := by
  constructor
  · rintro ⟨m, hLess, r, hWaits, hAborts⟩
    rcases move.waited hWaits with hWaits | hNew
    · exact ⟨m, hLess, r, hWaits, hAborts⟩
    · have hSame := Decimal.text_injective hNew
      omega
  · rintro ⟨m, hLess, r, hWaits, hAborts⟩
    rcases move.keeps hOpen hOrderly hWaits with hWaits | hAnswered
    · exact ⟨m, hLess, r, hWaits, hAborts⟩
    · rw [calm_iff_answered.1 calm _ hAnswered] at hAborts
      cases hAborts

/-- Events in front that do not close the transport matter only by answering the ticket. -/
theorem closesOver_append {first rest : List Event} {t : Ticket}
    (hOpen : ∀ answer, .close answer ∉ first) :
    ClosesOver (first ++ rest) t ↔ t ∉ answered first ∧ ClosesOver rest t := by
  constructor
  · rintro ⟨before, answer, after, hSplit, hBefore⟩
    rcases List.append_eq_append_iff.1 hSplit with ⟨mid, rfl, hRest⟩ | ⟨mid, rfl, hMid⟩
    · rw [answered_append, List.mem_append, not_or] at hBefore
      exact ⟨hBefore.1, mid, answer, after, hRest, hBefore.2⟩
    · cases mid with
      | nil =>
          rw [List.append_nil]
          exact ⟨hBefore, [], answer, after, hMid.symm, List.not_mem_nil⟩
      | cons e mid =>
          obtain ⟨rfl, -⟩ := List.cons.inj hMid
          exact absurd (List.mem_append_right _ (List.mem_cons_self ..)) (hOpen answer)
  · rintro ⟨hNot, before, answer, after, rfl, hBefore⟩
    refine ⟨first ++ before, answer, after, (List.append_assoc ..).symm, ?_⟩
    rw [answered_append, List.mem_append, not_or]
    exact ⟨hNot, hBefore⟩

theorem Move.kept_or_answered_iff (move : Move c tickets events c') (h : c.Orderly) {n : Nat}
    {r : Recipient} (hWaits : (Decimal.text n, r) ∈ c.pending) :
    ((Decimal.text n, r) ∈ c'.pending ∨ ⟨some (Decimal.text n), r⟩ ∈ answered events) ↔
      ¬ (ClosesOver events ⟨some (Decimal.text n), r⟩ ∧ c.Blocked n) := by
  rcases move.closes with ⟨answer, hEvents, hEmpty⟩ | hOpen
  · have hCloses : ClosesOver events ⟨some (Decimal.text n), r⟩ :=
      ⟨[], answer, _, hEvents, List.not_mem_nil⟩
    rw [hEvents, answered_close, mem_answered_closing_iff h hWaits, hEmpty, ← hEvents]
    simp [hCloses]
  · have hNot : ¬ ClosesOver events ⟨some (Decimal.text n), r⟩ := by
      rintro ⟨before, answer, after, rfl, -⟩
      exact hOpen answer (List.mem_append_right _ (List.mem_cons_self ..))
    simp only [hNot, false_and, not_false_eq_true, iff_true]
    exact move.keeps hOpen h hWaits

/-- An operation loses a waiting request only by closing the transport while the request waits
behind a callback that aborts, and then always. -/
theorem Course.kept_or_answered_iff (course : Course c tickets events c') (h : c.Orderly) {n : Nat}
    {r : Recipient} (hWaits : (Decimal.text n, r) ∈ c.pending) :
    ((Decimal.text n, r) ∈ c'.pending ∨ ⟨some (Decimal.text n), r⟩ ∈ answered events) ↔
      ¬ (ClosesOver events ⟨some (Decimal.text n), r⟩ ∧ c.Blocked n) := by
  induction course with
  | stay c =>
      have hNot : ¬ ClosesOver [] ⟨some (Decimal.text n), r⟩ := by
        rintro ⟨before, answer, after, hNil, -⟩
        cases before <;> cases hNil
      simp [hNot, hWaits]
  | last move => exact move.kept_or_answered_iff h hWaits
  | @step c middle c' tickets tickets' events events' move calm rest ih =>
      rw [answered_append, List.mem_append]
      rcases move.closes with ⟨answer, hEvents, -⟩ | hOpen
      · -- nobody aborts here, so that everyone who waits is answered
        have hAnswered : ⟨some (Decimal.text n), r⟩ ∈ answered events := by
          rw [hEvents, calm_cons] at calm
          rw [hEvents, answered_close, deliverAll_of_calm calm.2, answered_map_deliver]
          exact List.mem_map_of_mem (c.pending.inOrder_perm.mem_iff.2 hWaits)
        have hFree := (move.kept_or_answered_iff h hWaits).1 (Or.inr hAnswered)
        have hCloses : ClosesOver events ⟨some (Decimal.text n), r⟩ :=
          ⟨[], answer, _, hEvents, List.not_mem_nil⟩
        have hNotBlocked : ¬ c.Blocked n := fun hBlocked => hFree ⟨hCloses, hBlocked⟩
        simp [hAnswered, hNotBlocked]
      · rw [closesOver_append hOpen]
        by_cases hAnswered : ⟨some (Decimal.text n), r⟩ ∈ answered events
        · simp [hAnswered]
        · have hKept := (move.keeps hOpen h hWaits).resolve_right hAnswered
          obtain ⟨k, hLess, hText⟩ := h.numbered _ (Pending.mem_ids hWaits)
          have hn : n < c.nextId := Decimal.text_injective hText ▸ hLess
          rw [← move.blocked_iff calm hOpen h hn]
          simpa [hAnswered] using ih (move.orderly h) hKept

theorem afterwards_orderly {c : Connection σ} (h : c.Orderly) (steps : List (Step σ)) :
    (c.afterwards steps).Orderly := by
  induction steps generalizing c with
  | nil => exact h
  | cons step steps ih =>
      cases step with
      | call what => exact ih ((c.perform_follows what).course.orderly h)
      | «meanwhile» change =>
          have hChanged : (c.changing change).Orderly := h.of_eq rfl rfl rfl
          exact ih hChanged

/-- Whatever happened before, over any transport and with any callbacks, a request that waits before
a call waits or is answered after it, unless the call closes the connection over it while it waits
behind a callback that aborts. In that case it is lost. -/
theorem kept_or_answered_unless_closed_over (transport : σ) (readChunk : Nat)
    (steps : List (Step σ)) (what : Call) (e : String × Recipient)
    (hWaits : e ∈ ((withReadChunk readChunk transport).afterwards steps).pending) :
    let c := (withReadChunk readChunk transport).afterwards steps
    let o := c.perform what
    ∃ n, e.1 = Decimal.text n ∧
      ((e ∈ o.connection.pending ∨ ⟨some e.1, e.2⟩ ∈ answered o.trace) ↔
        ¬ (ClosesOver o.trace ⟨some e.1, e.2⟩ ∧ c.Blocked n)) := by
  intro c o
  have hOrderly : c.Orderly := afterwards_orderly (withReadChunk_orderly readChunk transport) steps
  obtain ⟨id, r⟩ := e
  obtain ⟨n, -, rfl⟩ := hOrderly.numbered _ (Pending.mem_ids hWaits)
  exact ⟨n, rfl, (c.perform_follows what).course.kept_or_answered_iff hOrderly hWaits⟩

/-- Two requests that wait; the callback of the first aborts. -/
def pairBehindAbort : Connection Script :=
  (withReadChunk 1 {}).afterwards
    [.call (.send .get "a" [] ⟨"a", true⟩), .call (.send .get "b" [] ⟨"b", false⟩)]

theorem pairBehindAbort_pending : pairBehindAbort.pending =
    [("1", .callback ⟨"b", false⟩), ("0", .callback ⟨"a", true⟩)] := by
  decide +kernel

theorem pairBehindAbort_close : (pairBehindAbort.perform .close).connection.pending = [] ∧
    answered (pairBehindAbort.perform .close).trace =
      [⟨some "0", .callback ⟨"a", true⟩⟩] := by
  have hTrace : answered (pairBehindAbort.perform .close).trace =
      answered (deliverAll .connectionClosed pairBehindAbort.pending.inOrder).1 := rfl
  rw [hTrace, pairBehindAbort_pending, Pending.inOrder_pair (by decide)]
  exact ⟨rfl, rfl⟩

/-- Closing the connection of `pairBehindAbort` loses the second request, which waits behind the
first. -/
theorem second_closed_over :
    ("1", .callback ⟨"b", false⟩) ∈ pairBehindAbort.pending ∧
      ClosesOver (pairBehindAbort.perform .close).trace ⟨some "1", .callback ⟨"b", false⟩⟩ ∧
      pairBehindAbort.Blocked 1 := by
  have hWaits : ("1", .callback ⟨"b", false⟩) ∈ pairBehindAbort.pending := by
    rw [pairBehindAbort_pending]
    exact List.mem_cons_self ..
  obtain ⟨hAfter, hAnswered⟩ := pairBehindAbort_close
  obtain ⟨n, hText, hIff⟩ := kept_or_answered_unless_closed_over ({} : Script) 1
    [.call (.send .get "a" [] ⟨"a", true⟩), .call (.send .get "b" [] ⟨"b", false⟩)] .close
    ("1", .callback ⟨"b", false⟩) hWaits
  have hOne : "1" = Decimal.text 1 := by decide +kernel
  obtain rfl : 1 = n := Decimal.text_injective (hOne.symm.trans hText)
  refine ⟨hWaits, Classical.byContradiction fun hNot => ?_⟩
  rcases hIff.2 hNot with hKept | hRan
  · change _ ∈ (pairBehindAbort.perform .close).connection.pending at hKept
    rw [hAfter] at hKept
    cases hKept
  · change _ ∈ answered (pairBehindAbort.perform .close).trace at hRan
    rw [hAnswered] at hRan
    simp at hRan

/-- Of two requests that wait, closing answers the first, whose callback aborts, and neither answers
the second nor lets it wait. -/
theorem second_lost :
    ("1", .callback ⟨"b", false⟩) ∈ pairBehindAbort.pending ∧
      ⟨some "0", .callback ⟨"a", true⟩⟩ ∈ answered (pairBehindAbort.perform .close).trace ∧
      ¬ (("1", .callback ⟨"b", false⟩) ∈ (pairBehindAbort.perform .close).connection.pending ∨
        ⟨some "1", .callback ⟨"b", false⟩⟩ ∈ answered (pairBehindAbort.perform .close).trace) := by
  obtain ⟨hAfter, hAnswered⟩ := pairBehindAbort_close
  rw [pairBehindAbort_pending, hAfter, hAnswered]
  simp

end Connection

end DocWire
