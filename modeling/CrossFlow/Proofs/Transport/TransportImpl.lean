import CrossFlow.Core.Transport.TransportImpl

/-!
# `CrossFlow.Proofs.Transport.TransportImpl`: what the functions of the transport do

One lemma for each function, on the flags, the backlog and the input socket.
-/

set_option autoImplicit false

namespace CrossFlow

namespace TransportImpl

/-! ### Sending -/

/-- When every call of `::send` writes something, everything is written. -/
theorem sendLoop_of_pos {ret : Nat → Int} (hret : ∀ k, 0 < ret k) (k : Nat) (data : List UInt8) :
    (sendLoop ret k data).1 = true ∧ (sendLoop ret k data).2.1 = data := by
  induction k, data using sendLoop.induct ret with
  | case1 k =>
    rw [sendLoop, if_pos rfl]
    exact ⟨rfl, rfl⟩
  | case2 k data hdata hle => exact absurd (hret k) (not_lt.mpr hle)
  | case3 k data hdata hpos n ok written k' hrec ih =>
    rw [sendLoop, if_neg hdata, if_neg hpos]
    refine ⟨ih.1, ?_⟩
    show data.take n ++ (sendLoop ret (k + 1) (data.drop n)).2.1 = data
    rw [ih.2, List.take_append_drop]

/-- The bytes of an event on the input socket. -/
def frame (bytes : ObjectBytes) (event : CanonicalInputEvent) : List UInt8 :=
  htonl (UInt32.ofNat (bytes.event event).length) ++ bytes.event event

/-- A socket that refuses nothing takes the whole frame. -/
theorem sendFrame_of_pos {fd : SocketFd} {ret : Nat → Int} (hfd : fd.isSome = true)
    (hret : ∀ k, 0 < ret k) (data : List UInt8) :
    sendFrame fd ret data = (true, htonl (UInt32.ofNat data.length) ++ data) := by
  obtain ⟨socket, rfl⟩ := Option.isSome_iff_exists.mp hfd
  obtain ⟨hheader, hheaderWritten⟩ :=
    sendLoop_of_pos hret 0 (htonl (UInt32.ofNat data.length))
  obtain ⟨hbody, hbodyWritten⟩ :=
    sendLoop_of_pos hret (sendLoop ret 0 (htonl (UInt32.ofNat data.length))).2.2 data
  simp only [sendFrame, sendRaw, hheader, hheaderWritten, hbody, hbodyWritten]
  rfl

/-- The socket takes the whole event. -/
def TakesEvent (t : TransportImpl) (bytes : ObjectBytes) (event : CanonicalInputEvent)
    (ret : Nat → Int) : Prop :=
  (sendFrame t.inputSocket ret (bytes.event event)).1 = true

/-- What `send` does to the count: up if the event is not sent, and down if it is. -/
theorem send_cases (t : TransportImpl) (bytes : ObjectBytes) (event : CanonicalInputEvent)
    (ret : Nat → Int) :
    (t.connected = true ∧ t.TakesEvent bytes event ret ∧
      (t.send bytes event ret).1 =
        { t with
          totalSent := t.totalSent + 1
          backlog := if t.backlog > 0 then t.backlog - 1 else t.backlog }) ∨
    (¬ (t.connected = true ∧ t.TakesEvent bytes event ret) ∧
      (t.send bytes event ret).1 = { t with backlog := t.backlog + 1 }) := by
  unfold send TakesEvent
  cases hconnected : t.connected with
  | false => exact .inr ⟨fun h => Bool.false_ne_true h.1, rfl⟩
  | true =>
    -- The count goes up when the frame is torn and down when it is written.
    cases hok : (sendFrame t.inputSocket ret (bytes.event event)).1 with
    | false =>
      right
      refine ⟨fun h => Bool.false_ne_true h.2, ?_⟩
      simp [hok]
    | true =>
      left
      refine ⟨rfl, rfl, ?_⟩
      by_cases hbacklog : t.backlog > 0
      · simp [hok, hbacklog]
      · simp [hok, hbacklog]

/-- The flags and the count are the same in both states. -/
structure SameFlags (t t' : TransportImpl) : Prop where
  backlog : t'.backlog = t.backlog
  linkUp : t'.linkUp = t.linkUp
  connected : t'.connected = t.connected

/-- Closing a socket leaves the flags. -/
theorem sameFlags_closeSocket {t t' : TransportImpl} (h : SameFlags t t') (fd : SocketFd) :
    SameFlags t (t'.closeSocket fd) := by
  cases fd with
  | none => exact h
  | some fd => exact ⟨h.backlog, h.linkUp, h.connected⟩

/-- A transport has its own flags. -/
theorem SameFlags.refl (t : TransportImpl) : SameFlags t t := ⟨rfl, rfl, rfl⟩

/-- Closing the sockets leaves the flags. -/
theorem sameFlags_closeSockets (t : TransportImpl) : SameFlags t t.closeSockets := by
  let t' := (t.closeSocket t.inputSocket).closeSocket t.controlSocket
  have hconnections : SameFlags t t' := sameFlags_closeSocket (sameFlags_closeSocket (.refl t) _) _
  have hclosed := sameFlags_closeSocket (sameFlags_closeSocket hconnections t'.listenInputSocket)
    t'.listenControlSocket
  exact ⟨hclosed.backlog, hclosed.linkUp, hclosed.connected⟩

/-- Making sockets leaves the flags to `connect`, and succeeds with an input socket. -/
theorem createSockets_spec (t : TransportImpl) (r : ConnectCalls) :
    SameFlags t (t.createSockets r).1 ∧
      ((t.createSockets r).2 = true → (t.createSockets r).1.inputSocket.isSome = true) := by
  have hsome : ∀ {fd fd' : SocketFd}, ¬ (fd.isNone = true ∨ fd'.isNone = true) →
      fd.isSome = true := by
    intro fd fd' h
    cases fd with
    | none => exact absurd (.inl rfl) h
    | some fd => rfl
  -- Every failing branch closes only sockets it has just made.
  unfold createSockets
  split
  · unfold createServerSockets
    split
    · exact ⟨sameFlags_closeSocket (sameFlags_closeSocket (.refl t) _) _, fun h => nomatch h⟩
    · split
      · exact ⟨sameFlags_closeSocket (sameFlags_closeSocket (.refl t) _) _, fun h => nomatch h⟩
      · dsimp only
        split
        · refine ⟨sameFlags_closeSocket (sameFlags_closeSocket ?_ _) _, fun h => nomatch h⟩
          exact ⟨rfl, rfl, rfl⟩
        · next haccepted => exact ⟨⟨rfl, rfl, rfl⟩, fun _ => hsome haccepted⟩
  · unfold createClientSockets
    split
    · exact ⟨sameFlags_closeSocket (sameFlags_closeSocket (.refl t) _) _, fun h => nomatch h⟩
    · next hsockets =>
      split
      · exact ⟨sameFlags_closeSocket (sameFlags_closeSocket (.refl t) _) _, fun h => nomatch h⟩
      · split
        · exact ⟨sameFlags_closeSocket (sameFlags_closeSocket (.refl t) _) _, fun h => nomatch h⟩
        · exact ⟨⟨rfl, rfl, rfl⟩, fun _ => hsome hsockets⟩

/-- What a connect can do. -/
theorem connect_cases (t : TransportImpl) (r : ConnectCalls) :
    (t.connected = true ∧ (t.connect r).1 = t) ∨
    (t.connected = false ∧ (t.createSockets r).2 = false ∧ SameFlags t (t.connect r).1) ∨
    (t.connected = false ∧ (t.createSockets r).2 = true ∧ (t.connect r).1.linkUp = true ∧
      (t.connect r).1.connected = true ∧ (t.connect r).1.backlog = t.backlog ∧
      (t.connect r).1.inputSocket.isSome = true) := by
  obtain ⟨hsame, hsocket⟩ := t.createSockets_spec r
  unfold connect
  cases hconnected : t.connected with
  | true => exact .inl ⟨rfl, rfl⟩
  | false =>
    right
    cases hok : (t.createSockets r).2 with
    | false =>
      left
      simp only [hok]
      exact ⟨trivial, trivial, hsame⟩
    | true =>
      right
      simp only [hok]
      exact ⟨trivial, trivial, rfl, rfl, hsame.backlog, hsocket hok⟩

end TransportImpl

end CrossFlow
