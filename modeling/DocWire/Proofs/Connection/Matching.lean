import DocWire.Proofs.Connection.Checks
import DocWire.Proofs.Connection.Strays

/-! A frame answers the request whose digits stand in front of its first space, byte by byte. Ids
that are no text are read with replacements, but none of these is taken for a number that was given
out. -/

namespace DocWire

namespace Reply

/-- The body that answers the request `n`: its digits, a space and the answer. -/
def bodyFor (n : Nat) (answer : Bytes) : Bytes :=
  Utf8.encode (Decimal.text n) ++ Bytes.space :: answer

theorem decode?_bodyFor (n : Nat) (answer : Bytes) :
    decode? (bodyFor n answer) = some ⟨Decimal.text n, readAnswer answer⟩ := by
  rw [decode?, bodyFor, Bytes.splitAtSpace?_append (Decimal.space_notMem_encode_text n)]
  simp [Utf8.decodeLossy_encode]

/-- A body that is read as an answer to the request `n` begins with the digits of `n`. -/
theorem exists_bodyFor {body : Bytes} {reply : Reply} {n : Nat} (h : decode? body = some reply)
    (hId : reply.id = Decimal.text n) :
    ∃ answer, body = bodyFor n answer ∧ reply.response = readAnswer answer := by
  obtain ⟨⟨before, answer⟩, hSplit, rfl⟩ := Option.map_eq_some_iff.1 h
  refine ⟨answer, ?_, rfl⟩
  rw [bodyFor, Decimal.encode_text_of_decodeLossy hId]
  exact Bytes.eq_of_splitAtSpace? hSplit

end Reply

variable {p : Pending} {body answer : Bytes} {n n' : Nat} {r r' : Recipient}

namespace Pending

/-- The request `n` waits for `r`, and the body answers it. -/
def Matches (p : Pending) (body : Bytes) (n : Nat) (r : Recipient) : Prop :=
  (Decimal.text n, r) ∈ p ∧ ∃ answer, body = Reply.bodyFor n answer

/-- A body matches one request at most. -/
theorem Matches.unique (hDistinct : p.ids.Nodup) (h : p.Matches body n r)
    (h' : p.Matches body n' r') : n = n' ∧ r = r' := by
  obtain ⟨hWaits, answer, rfl⟩ := h
  obtain ⟨hWaits', answer', hBody⟩ := h'
  have hReply := Reply.decode?_bodyFor n answer
  rw [hBody, Reply.decode?_bodyFor] at hReply
  injection hReply with hReply
  injection hReply with hText
  obtain rfl := Decimal.text_injective hText
  have hLookup := lookup_of_mem hDistinct hWaits
  rw [lookup_of_mem hDistinct hWaits'] at hLookup
  exact ⟨rfl, (Option.some.inj hLookup).symm⟩

end Pending

namespace Connection

variable {σ : Type} {c : Connection σ} {d : Frame.Decoder}

/-- A body that matches a request is handed out as its response. -/
theorem dispatch_of_matches (hOrderly : c.Orderly) (h : c.pending.Matches body n r) :
    ∃ answer, body = Reply.bodyFor n answer ∧ c.dispatch body =
      ⟨r.allow (.returned true), { c with pending := c.pending.erase (Decimal.text n) },
        [.deliver ⟨some (Decimal.text n), r, Reply.readAnswer answer⟩]⟩ := by
  obtain ⟨hWaits, answer, rfl⟩ := h
  have hLookup := Pending.lookup_of_mem hOrderly.distinct hWaits
  refine ⟨answer, rfl, ?_⟩
  simp only [dispatch, Reply.decode?_bodyFor, hLookup]

/-- A body that matches no request breaks the protocol and changes nothing. -/
theorem dispatch_of_not_matches (hOrderly : c.Orderly)
    (h : ∀ n r, ¬ c.pending.Matches body n r) :
    ∃ fault, c.dispatch body = c.finish (.failed (.protocol fault)) := by
  refine ⟨_, dispatch_stray ?_ hOrderly⟩
  rintro id hId ⟨answer, rfl⟩
  obtain ⟨⟨id, r⟩, hWaits, rfl⟩ := List.mem_map.1 hId
  obtain ⟨n, -, hText⟩ := hOrderly.numbered id hId
  dsimp only at hText h
  subst hText
  exact h n r ⟨hWaits, answer, by simp [Reply.bodyFor]⟩

/-- A poll that comes to the response to a request that waits hands it out. -/
theorem Ended.of_bodyFor {deadline : Option Instant} {o : Outcome σ Bool} {answer : Bytes}
    {d : Frame.Decoder} (h : Ended deadline c o) (hOrderly : c.Orderly)
    (hWaits : (Decimal.text n, r) ∈ c.pending) (hReturns : o.ending ≠ .stalled)
    (hBody : (c.held o.trace).Consumes d (.ok (some (Reply.bodyFor n answer)))) :
    o.ending = .returned true ∧
      deliveries o.trace = [⟨some (Decimal.text n), r, Reply.readAnswer answer⟩] ∧
      o.connection.pending = c.pending.erase (Decimal.text n) := by
  have hFound := Pending.lookup_of_mem hOrderly.distinct hWaits
  have hNow := congrArg Prod.fst (Frame.Decoder.next_of_consumes hBody)
  cases h with
  | stalled => exact absurd rfl hReturns
  | fault t events f hFilling hNext => cases hNow.symm.trans hNext
  | astray t events body fault hFilling hNext hNobody =>
      cases hNow.symm.trans hNext
      cases hFound.symm.trans (hNobody _ (Reply.decode?_bodyFor n answer))
  | dispatched t events body reply r' hFilling hNext hReply hLookup =>
      rw [held_append c rfl] at hNow
      cases hNow.symm.trans hNext
      cases (Reply.decode?_bodyFor n answer).symm.trans hReply
      cases hFound.symm.trans hLookup
      rw [deliveries_append, hFilling.deliveries]
      exact ⟨rfl, rfl, rfl⟩
  | late t events hFilling hNext => cases hNow.symm.trans hNext
  | failed t events k e hFilling hNext =>
      rw [held_append c rfl] at hNow
      cases hNow.symm.trans hNext
  | lost t events k e closing hFilling hNext =>
      rw [held_of_lost] at hNow
      cases hNow.symm.trans hNext

variable [Transport σ]

/-- A frame that is there already is dispatched without a read. -/
theorem check_of_front (hOpen : c.closed = false) (hRounds : ∀ t : σ, 0 < Transport.patience t)
    (hFront : c.decoder.Consumes d (.ok (some body))) (limit : Option Duration) :
    c.check limit = dispatch { c.now.2 with decoder := d } body := by
  have hLooked : c.now.2.closed = false := hOpen
  have hNext : c.now.2.decoder.next = (.ok (some body), d) := Frame.Decoder.next_of_consumes hFront
  obtain ⟨rounds, hSucc⟩ : ∃ rounds, Transport.patience c.now.2.transport = rounds + 1 :=
    ⟨_, (Nat.sub_add_cancel (hRounds _)).symm⟩
  show c.now.2.poll _ = _
  rw [poll_of_open hLooked, hSucc, pollWithin_succ, hNext]

/-- An open connection, reached in any way and over any transport whose checks are given a round at
all, holds a complete frame with any body. The next check runs the callback of a request exactly if
that waits and the body begins with the digits of its number and a space. If there is such a
request, its callback runs once, whatever stands behind the space, and the check returns unless that
callback aborts. If there is none, nobody's callback runs and nobody is forgotten. -/
theorem check_runs_the_callback_of_the_digits (transport : σ) (readChunk : Nat)
    (steps : List (Step σ)) (hReached : (withReadChunk readChunk transport).afterwards steps = c)
    (hOpen : c.closed = false) (hRounds : ∀ t : σ, 0 < Transport.patience t)
    (hFront : c.decoder.Consumes d (.ok (some body))) (limit : Option Duration) :
    let o := c.check limit
    (∀ n r, (∃ response, .deliver ⟨some (Decimal.text n), r, response⟩ ∈ o.trace) ↔
      c.pending.Matches body n r) ∧
    (∀ n r, c.pending.Matches body n r → ∃ answer, body = Reply.bodyFor n answer ∧
      o.trace = [.deliver ⟨some (Decimal.text n), r, Reply.readAnswer answer⟩] ∧
      o.connection.pending = c.pending.erase (Decimal.text n) ∧
      o.ending = if r.aborts then .aborted else .returned true) ∧
    ((∀ n r, ¬ c.pending.Matches body n r) →
      o.trace = [] ∧ o.connection.pending = c.pending ∧
        ∃ fault, o.ending = .failed (.protocol fault)) := by
  intro o
  have hOrderly : c.Orderly := by
    rw [← hReached]
    exact afterwards_orderly (withReadChunk_orderly readChunk transport) steps
  have hAsked : Orderly { c.now.2 with decoder := d } := hOrderly.of_eq rfl rfl rfl
  have hCheck : o = dispatch { c.now.2 with decoder := d } body :=
    check_of_front hOpen hRounds hFront limit
  by_cases hMatch : ∃ n r, c.pending.Matches body n r
  · obtain ⟨n, r, hMatches⟩ := hMatch
    obtain ⟨answer, hBody, hDispatch⟩ := dispatch_of_matches hAsked hMatches
    rw [hCheck, hDispatch]
    refine ⟨?_, ?_, fun hNone => absurd hMatches (hNone n r)⟩
    · intro n' r'
      constructor
      · rintro ⟨response, hMem⟩
        injection List.mem_singleton.1 hMem with hDelivery
        injection hDelivery with hId hRecipient
        rwa [Decimal.text_injective (Option.some.inj hId), hRecipient]
      · intro hMatches'
        obtain ⟨rfl, rfl⟩ := hMatches.unique hOrderly.distinct hMatches'
        exact ⟨_, List.mem_singleton_self _⟩
    · intro n' r' hMatches'
      obtain ⟨rfl, rfl⟩ := hMatches.unique hOrderly.distinct hMatches'
      exact ⟨answer, hBody, rfl, rfl, rfl⟩
  · have hNone : ∀ n r, ¬ c.pending.Matches body n r := fun n r h => hMatch ⟨n, r, h⟩
    obtain ⟨fault, hDispatch⟩ := dispatch_of_not_matches hAsked hNone
    rw [hCheck, hDispatch]
    refine ⟨fun n r => ?_, fun n r h => absurd h (hNone n r), fun _ => ⟨rfl, rfl, fault, rfl⟩⟩
    exact iff_of_false (fun ⟨_, hMem⟩ => nomatch hMem) (hNone n r)

/-- A frame that writes the number of a request with a zero in front, and one that writes it as it
is, with an unknown tag and a byte that is no text behind it. -/
def zeroInFront : Script :=
  { reads := [.ok (Frame.encode (Utf8.encode "01 Sx") ++
      Frame.encode (Utf8.encode "1 Z" ++ [0xFF]))] }

/-- The first check runs nobody's callback. The second one runs that of the request, and it
returns. -/
theorem check_runs_the_callback_of_the_digits_zeroInFront :
    let c := (withReadChunk 64 zeroInFront).afterwards
      (pairOfSends ⟨"a", false⟩ ++ [.call (.check none)])
    c.pending = [("1", .callback ⟨"b", false⟩), ("0", .callback ⟨"a", false⟩)] ∧
      c.pending.Matches (Utf8.encode "1 Z" ++ [0xFF]) 1 (.callback ⟨"b", false⟩) ∧
      (∃ response, .deliver ⟨some (Decimal.text 1), .callback ⟨"b", false⟩, response⟩ ∈
        (c.check none).trace) ∧
      (c.check none).ending = .returned true := by
  intro c
  have hPending : c.pending = [("1", .callback ⟨"b", false⟩), ("0", .callback ⟨"a", false⟩)] := by
    decide +kernel
  have hOpen : c.closed = false := by decide +kernel
  have hNext : c.decoder.next = (.ok (some (Utf8.encode "1 Z" ++ [0xFF])), .empty) := by
    decide +kernel
  have hMatches : c.pending.Matches (Utf8.encode "1 Z" ++ [0xFF]) 1 (.callback ⟨"b", false⟩) := by
    rw [hPending]
    exact ⟨by decide +kernel, Utf8.encode "Z" ++ [0xFF], by decide +kernel⟩
  have hRounds (t : Script) : 0 < Transport.patience t := Nat.succ_pos _
  obtain ⟨hIff, hRuns, -⟩ := check_runs_the_callback_of_the_digits zeroInFront 64 _ rfl hOpen
    hRounds (Frame.Decoder.next_eq_body_iff.1 hNext) none
  obtain ⟨-, -, -, -, hEnding⟩ := hRuns 1 _ hMatches
  exact ⟨hPending, hMatches, (hIff 1 _).2 hMatches, hEnding⟩

end Connection

end DocWire
