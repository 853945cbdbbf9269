import RedirectLogin.Listener
import RedirectLogin.Proofs.Loopback

/-!
# What ends the wait for a callback

However many connections there are, and however their bytes, answers and timeouts are interleaved, the
listener returns the target of a request that a task has read as a whole and taken for the callback.
Tasks take a request for the callback if its target begins with the callback's path. That is more than
the requests for this path: the target may go on with any character, and unless it is `?` or `#` the
path is another one (`IsLookalike`). These requests, and no others, end the wait where they should be
told that there is nothing.

Principal results: `readTarget_of_isWhole` — a task need not wait for the end of its stream;
`Listener.Sound.run` — answers and results of every run; `Listener.run_oneByOne` — connections that are
served one after another; `listener_keeps_to_its_path_iff` — when the path is kept to.
-/

set_option autoImplicit false

namespace RedirectLogin.Loopback

/-! ## Paths -/

/-- A character that begins a query or a fragment. -/
def endsPath (c : Char) : Bool :=
  c = '?' || c = '#'

/-- The path of a target: up to its query or fragment. -/
def pathOf (target : String) : List Char :=
  target.toList.takeWhile (fun c => !endsPath c)

/-- A request whose path begins with the callback's, and goes on. -/
def IsLookalike (stream : List UInt8) : Prop :=
  ∃ target c more, readTarget stream = .ok (some target) ∧
    target.toList = callbackPath.toList ++ c :: more ∧ endsPath c = false

/-- A connection that is served as the path says: the page goes to requests for the callback's path
only, and all others are told that there is nothing. -/
structure KeepsToPath (stream : List UInt8) : Prop where
  serves : ∀ target, Served.ofStream stream = .callback target →
    pathOf target = callbackPath.toList
  refuses : (∀ target, readTarget stream = .ok (some target) →
    pathOf target ≠ callbackPath.toList) → Served.ofStream stream = .notFound

section Paths

variable {stream : List UInt8} {target : String}

/-- What is taken for the callback, for another path, goes on with a character of the path. -/
theorem goesOn_iff :
    (isCallback target = true ∧ pathOf target ≠ callbackPath.toList) ↔
      ∃ c more, target.toList = callbackPath.toList ++ c :: more ∧ endsPath c = false := by
  have hpath : ∀ c ∈ callbackPath.toList, (!endsPath c) = true :=
    fun _ hc => Text.forall_mem hc (by decide)
  constructor
  · rintro ⟨hcallback, hother⟩
    rw [isCallback, List.isPrefixOf_iff_prefix] at hcallback
    obtain ⟨behind, hbehind⟩ := hcallback
    rw [pathOf, ← hbehind, List.takeWhile_append_of_pos hpath] at hother
    cases behind with
    | nil => exact absurd (List.append_nil _) hother
    | cons c more =>
      cases hends : endsPath c with
      | false => exact ⟨c, more, hbehind.symm, hends⟩
      | true =>
        rw [List.takeWhile_cons, hends] at hother
        exact absurd (List.append_nil _) hother
  · rintro ⟨c, more, htarget, hends⟩
    refine ⟨?_, fun hsame => ?_⟩
    · rw [isCallback, htarget, List.isPrefixOf_iff_prefix]
      exact List.prefix_append _ _
    · rw [pathOf, htarget, List.takeWhile_append_of_pos hpath, List.takeWhile_cons, hends] at hsame
      have hlength := congrArg List.length hsame
      simp only [Bool.not_false, if_true, List.length_append, List.length_cons] at hlength
      omega

/-- Lookalikes are the requests that are taken for the callback, for another path. -/
theorem isLookalike_iff :
    IsLookalike stream ↔ ∃ target, readTarget stream = .ok (some target) ∧
      isCallback target = true ∧ pathOf target ≠ callbackPath.toList := by
  constructor
  · rintro ⟨target, c, more, htarget, hgoes⟩
    exact ⟨target, htarget, goesOn_iff.2 ⟨c, more, hgoes⟩⟩
  · rintro ⟨target, htarget, hother⟩
    obtain ⟨c, more, hgoes⟩ := goesOn_iff.1 hother
    exact ⟨target, c, more, htarget, hgoes⟩

theorem ofStream_eq_callback_iff :
    Served.ofStream stream = .callback target ↔
      readTarget stream = .ok (some target) ∧ isCallback target = true := by
  unfold Served.ofStream
  rcases readTarget stream with e | _ | found
  · constructor
    · intro h
      cases h
    · rintro ⟨h, -⟩
      cases h
  · constructor
    · intro h
      cases h
    · rintro ⟨h, -⟩
      cases h
  · dsimp only
    split
    · rename_i hfound
      constructor
      · intro h
        cases h
        exact ⟨rfl, hfound⟩
      · rintro ⟨h, -⟩
        cases h
        rfl
    · rename_i hfound
      constructor
      · intro h
        cases h
      · rintro ⟨h, hcallback⟩
        cases h
        exact absurd hcallback hfound

/-- **A connection is served as the path says exactly if its request can be read and is no
lookalike.** -/
theorem keepsToPath_iff :
    KeepsToPath stream ↔ (∃ found, readTarget stream = .ok found) ∧ ¬ IsLookalike stream := by
  rw [isLookalike_iff]
  constructor
  · intro h
    constructor
    · cases hread : readTarget stream with
      | ok found => exact ⟨found, rfl⟩
      | error e =>
        have hdropped : Served.ofStream stream = .dropped := by rw [Served.ofStream, hread]
        have hnone : ∀ target, readTarget stream = .ok (some target) →
            pathOf target ≠ callbackPath.toList := by
          intro target htarget
          rw [hread] at htarget
          cases htarget
        rw [h.refuses hnone] at hdropped
        cases hdropped
    · rintro ⟨target, htarget, hcallback, hother⟩
      exact hother (h.serves target (ofStream_eq_callback_iff.2 ⟨htarget, hcallback⟩))
  · rintro ⟨⟨found, hfound⟩, hnone⟩
    refine ⟨fun target hserved => ?_, fun hother => ?_⟩
    · obtain ⟨htarget, hcallback⟩ := ofStream_eq_callback_iff.1 hserved
      by_contra hpath
      exact hnone ⟨target, htarget, hcallback, hpath⟩
    · rw [Served.ofStream, hfound]
      cases found with
      | none => rfl
      | some target =>
        exact if_neg (fun hcallback => hnone ⟨target, hfound, hcallback, hother target hfound⟩)

end Paths

/-! ## Reading without an end -/

/-- A line that has its newline stays as it is, whatever follows. -/
theorem splitLine_append {bs : List UInt8} (h : (splitLine bs).1.getLast? = some 10)
    (more : List UInt8) : splitLine (bs ++ more) = ((splitLine bs).1, (splitLine bs).2 ++ more) := by
  by_cases hmem : 10 ∈ bs
  · obtain ⟨line, rest, rfl, hline⟩ := List.eq_append_cons_of_mem hmem
    rw [List.append_assoc, List.cons_append, splitLine_run hline, splitLine_run hline]
  · rw [splitLine_of_not_mem hmem] at h
    exact absurd (List.mem_of_getLast? h) hmem

/-- The end of header lines, by the first line. -/
theorem endHeaders_eq {bs : List UInt8} (hne : bs ≠ []) :
    endHeaders bs =
      if (splitLine bs).1.getLast? = some 10 then
        match Text.decode? (splitLine bs).1 with
        | none => true
        | some line => line.all Text.isBlank || endHeaders (splitLine bs).2
      else false := by
  cases bs with
  | nil => exact absurd rfl hne
  | cons b bs => exact endHeaders.eq_def (b :: bs)

/-- Header lines that have come to their end are read the same, whatever follows. -/
theorem skipHeaders_append (bs : List UInt8) (h : endHeaders bs = true) (more : List UInt8) :
    skipHeaders (bs ++ more) = skipHeaders bs := by
  by_cases hne : bs = []
  · rw [hne, endHeaders] at h
    cases h
  rw [endHeaders_eq hne] at h
  split at h
  · rename_i hends
    rw [skipHeaders_eq hne, skipHeaders_eq (List.append_ne_nil_of_left_ne_nil hne more),
      splitLine_append hends more]
    cases hread : Text.decode? (splitLine bs).1 with
    | none => rfl
    | some line =>
      rw [hread] at h
      dsimp only at h ⊢
      rcases Bool.or_eq_true_iff.1 h with hblank | hrest
      · rw [if_pos hblank, if_pos hblank]
      · have hshorter : (splitLine bs).2.length < bs.length := splitLine_rest_lt hne
        rw [skipHeaders_append (splitLine bs).2 hrest more]
  · cases h
termination_by bs.length

/-- **A task need not wait for the end of its stream**: once it has all that it reads, whatever else
is sent makes no difference. -/
theorem readTarget_of_isWhole {bs : List UInt8} (h : isWhole bs = true) (more : List UInt8) :
    readTarget (bs ++ more) = readTarget bs := by
  by_cases hlimit : headLimit ≤ bs.length
  · exact readTarget_append bs more hlimit
  · rw [isWhole, decide_eq_false hlimit, Bool.false_or, Bool.and_eq_true, decide_eq_true_eq] at h
    obtain ⟨hends, hheaders⟩ := h
    by_cases hmem : 10 ∈ bs
    · obtain ⟨line, rest, rfl, hline⟩ := List.eq_append_cons_of_mem hmem
      have hhead : (line ++ 10 :: rest).take headLimit = line ++ 10 :: rest :=
        List.take_of_length_le (Nat.le_of_not_le hlimit)
      obtain ⟨kept, hkept⟩ : ∃ kept, ((line ++ 10 :: rest) ++ more).take headLimit =
          line ++ 10 :: (rest ++ kept) := by
        refine ⟨more.take (headLimit - (line ++ 10 :: rest).length), ?_⟩
        rw [List.take_append, hhead, List.append_assoc, List.cons_append]
      rw [readTarget_of_line hline hkept, readTarget_of_line hline hhead]
      rw [splitLine_run hline] at hheaders
      cases hread : Text.decode? (line ++ [10]) with
      | none => rfl
      | some cs =>
        have hended : endHeaders rest = true := by
          rcases Bool.or_eq_true_iff.1 hheaders with hnone | hended
          · rw [hread] at hnone
            cases hnone
          · exact hended
        dsimp only
        rw [skipHeaders_append rest hended kept]
    · rw [splitLine_of_not_mem hmem] at hends
      exact absurd (List.mem_of_getLast? hends) hmem

/-! ## Connections -/

namespace Connection

/-- What became of a connection is what its bytes say, all of them or as many as are read; or it was
dropped. -/
def Sound (c : Connection) : Prop :=
  ∀ served, c.served? = some served →
    served = .dropped ∨ c.isRead = true ∧ served = Served.ofStream c.arrived

/-- A change that answers a connection soundly, if at all, and leaves those alone that are answered. -/
structure Advances (f : Connection → Connection) : Prop where
  sound : ∀ {c}, c.Sound → (f c).Sound
  keeps : ∀ {c served}, c.served? = some served → (f c).served? = some served

theorem served?_of_reading {c : Connection} (h : c.stage = .reading) : c.served? = none := by
  rw [served?, h]

/-- What happens to connections that are being read leaves answered ones alone. -/
theorem stage_ne_reading {c : Connection} {served : Served} (h : c.served? = some served) :
    c.stage ≠ .reading := by
  intro hreading
  rw [served?_of_reading hreading] at h
  cases h

theorem sound_start : Connection.start.Sound := nofun

theorem advances_arrive (bytes : List UInt8) : Advances (arrive bytes) where
  sound {c} h := by
    unfold arrive
    split
    · rename_i hreading
      intro served hserved
      exact absurd hreading.1 (stage_ne_reading hserved)
    · exact h
  keeps {c served} h := by
    rw [arrive, if_neg (fun hreading => stage_ne_reading h hreading.1), h]

theorem advances_close : Advances close where
  sound {c} h := by
    intro served hserved
    rcases h served hserved with hdropped | ⟨-, hread⟩
    · exact Or.inl hdropped
    · exact Or.inr ⟨rfl, hread⟩
  keeps h := h

theorem advances_answer : Advances answer where
  sound {c} h := by
    unfold answer
    split
    · rename_i hread
      intro served hserved
      refine Or.inr ?_
      split at hserved
      · rename_i target hcallback
        exact ⟨hread.2, (Option.some.inj hserved).symm.trans hcallback.symm⟩
      · exact ⟨hread.2, (Option.some.inj hserved).symm⟩
    · exact h
  keeps {c served} h := by
    rw [answer, if_neg (fun hreading => stage_ne_reading h hreading.1), h]

theorem advances_expire : Advances expire where
  sound {c} h := by
    unfold expire
    split
    · intro served hserved
      exact Or.inl (Option.some.inj hserved).symm
    · exact h
  keeps {c served} h := by
    rw [expire, if_neg (stage_ne_reading h), h]

/-- To hand a target over changes nothing about the answer. -/
theorem finish_served (c : Connection) :
    c.finish.served? = c.served? ∧ c.finish.arrived = c.arrived ∧ c.finish.closed = c.closed := by
  unfold finish
  split
  · rename_i target hstage
    refine ⟨?_, rfl, rfl⟩
    simp only [served?, hstage]
  · exact ⟨rfl, rfl, rfl⟩

theorem advances_finish : Advances finish where
  sound {c} h := by
    obtain ⟨hserved, harrived, hclosed⟩ := c.finish_served
    unfold Sound isRead
    rw [hserved, harrived, hclosed]
    exact h
  keeps {c served} h := by
    rw [c.finish_served.1, h]

end Connection

/-! ## Runs -/

namespace Listener

variable {l : Listener}

/-- A connection has been served like this. -/
def HasServed (l : Listener) (served : Served) : Prop :=
  ∃ c ∈ l.connections, c.served? = some served

/-- Every connection is served soundly, and what is in the channel or was returned is the target of a
callback that was served. -/
structure Sound (l : Listener) : Prop where
  connections : ∀ c ∈ l.connections, c.Sound
  channel : ∀ target, l.channel = some target → l.HasServed (.callback target)
  returned : ∀ e, l.result? = some (.ok e) →
    ∃ target, l.HasServed (.callback target) ∧ e = Loopback.event l.port target

theorem sound_start (port : Nat) : (start port).Sound :=
  ⟨nofun, nofun, nofun⟩

theorem mem_modify {f : Connection → Connection} {cs : List Connection} {i : Nat} {c : Connection}
    (h : c ∈ cs.modify i f) : ∃ d ∈ cs, c = d ∨ c = f d := by
  obtain ⟨j, hj⟩ := List.mem_iff_getElem?.1 h
  rw [List.getElem?_modify] at hj
  obtain ⟨d, hd, rfl⟩ := Option.map_eq_some_iff.1 hj
  refine ⟨d, List.mem_of_getElem? hd, ?_⟩
  split
  · exact Or.inr rfl
  · exact Or.inl rfl

/-- What has been served stays so. -/
theorem HasServed.update {served : Served} (h : l.HasServed served) (i : Nat)
    {f : Connection → Connection} (hf : Connection.Advances f) :
    (l.update i f).HasServed served := by
  obtain ⟨c, hc, hserved⟩ := h
  obtain ⟨j, hj⟩ := List.mem_iff_getElem?.1 hc
  have hthere : (l.connections.modify i f)[j]? = some (if i = j then f c else c) := by
    rw [List.getElem?_modify, hj]
    rfl
  refine ⟨_, List.mem_of_getElem? hthere, ?_⟩
  split
  · exact hf.keeps hserved
  · exact hserved

theorem Sound.update (h : l.Sound) (i : Nat) {f : Connection → Connection}
    (hf : Connection.Advances f) : (l.update i f).Sound where
  connections c hc := by
    obtain ⟨d, hd, rfl | rfl⟩ := mem_modify hc
    · exact h.connections _ hd
    · exact hf.sound (h.connections _ hd)
  channel target htarget := (h.channel target htarget).update i hf
  returned e he := by
    obtain ⟨target, htarget, hevent⟩ := h.returned e he
    exact ⟨target, htarget.update i hf, hevent⟩

theorem Sound.accept (h : l.Sound) : l.accept.Sound := by
  unfold Listener.accept
  split
  · rename_i hwaiting
    refine ⟨fun c hc => ?_, fun target htarget => ?_, fun e he => ?_⟩
    · rcases List.mem_append.1 hc with hc | hc
      · exact h.connections c hc
      · rw [List.mem_singleton.1 hc]
        exact Connection.sound_start
    · obtain ⟨c, hc, hserved⟩ := h.channel target htarget
      exact ⟨c, List.mem_append_left _ hc, hserved⟩
    · rw [show l.result? = some (.ok e) from he] at hwaiting
      cases hwaiting
  · exact h

theorem Sound.fail (h : l.Sound) (e : SessionError) : (l.fail e).Sound := by
  unfold Listener.fail
  split
  · exact ⟨h.connections, h.channel, fun _ he => nomatch he⟩
  · exact h

theorem Sound.hand (h : l.Sound) (i : Nat) : (l.hand i).Sound := by
  unfold Listener.hand
  split
  · exact h
  · rename_i target htarget
    split
    · exact h.update i Connection.advances_finish
    · have hupdate := h.update i Connection.advances_finish
      refine ⟨hupdate.connections, fun other hother => ?_, hupdate.returned⟩
      rw [← Option.some.inj hother]
      obtain ⟨c, hc, hstage⟩ := Option.bind_eq_some_iff.1 htarget
      have hserved : c.served? = some (.callback target) := by
        unfold Connection.target? at hstage
        split at hstage
        · rename_i found hfound
          rw [Connection.served?, hfound, Option.some.inj hstage]
        · cases hstage
      have hthere : l.HasServed (.callback target) := ⟨c, List.mem_of_getElem? hc, hserved⟩
      exact hthere.update i Connection.advances_finish
    · exact h

theorem Sound.take (h : l.Sound) : l.take.Sound := by
  unfold Listener.take
  split
  · rename_i target hwaiting hchannel
    refine ⟨h.connections, nofun, fun e he => ⟨target, h.channel target hchannel, ?_⟩⟩
    exact (Except.ok.inj (Option.some.inj he)).symm
  · exact h

/-- **Every step keeps it so.** -/
theorem Sound.step (h : l.Sound) (e : Event) : (l.step e).Sound := by
  cases e with
  | accept => exact h.accept
  | acceptFails reason => exact h.fail _
  | arrive i bytes => exact h.update i (Connection.advances_arrive bytes)
  | close i => exact h.update i Connection.advances_close
  | answer i => exact h.update i Connection.advances_answer
  | expire i => exact h.update i Connection.advances_expire
  | hand i => exact h.hand i
  | take => exact h.take
  | timeOut => exact h.fail _

theorem Sound.run (h : l.Sound) (events : List Event) : (l.run events).Sound := by
  induction events generalizing l with
  | nil => exact h
  | cons e events ih => exact ih (h.step e)

theorem step_port (l : Listener) (e : Event) : (l.step e).port = l.port := by
  cases e with
  | accept => exact l.accept_port
  | acceptFails reason => exact l.fail_port _
  | hand i => exact l.hand_port i
  | take => exact l.take_port
  | timeOut => exact l.fail_port _
  | _ => rfl

theorem run_port (l : Listener) (events : List Event) : (l.run events).port = l.port := by
  induction events generalizing l with
  | nil => rfl
  | cons e events ih => rw [run_cons, ih, step_port]

/-- The connections that were answered or dropped. -/
def answered (l : Listener) : List Connection :=
  l.connections.filter (fun c => c.served?.isSome)

/-- **What is returned is the callback of a connection**: its task has read a whole request, and taken
it for the callback. -/
theorem run_returned (port : Nat) {events : List Event} {e : CallbackEvent}
    (h : ((start port).run events).result? = some (.ok e)) :
    ∃ c ∈ ((start port).run events).answered, ∃ target, c.isRead = true ∧
      readTarget c.arrived = .ok (some target) ∧ isCallback target = true ∧
      e = Loopback.event port target := by
  have hsound := (sound_start port).run events
  obtain ⟨target, ⟨c, hc, hserved⟩, hevent⟩ := hsound.returned e h
  rw [run_port] at hevent
  rcases hsound.connections c hc _ hserved with hdropped | ⟨hread, hstream⟩
  · cases hdropped
  · obtain ⟨htarget, hcallback⟩ := ofStream_eq_callback_iff.1 hstream.symm
    have hanswered : c.served?.isSome = true := by rw [hserved]; rfl
    exact ⟨c, List.mem_filter.2 ⟨hc, hanswered⟩, target, hread, htarget, hcallback, hevent⟩

/-! ## One after another -/

/-- A connection sends its bytes and closes, and is served before anything else happens. -/
def serving (connection : Nat) (stream : List UInt8) : List Event :=
  [.accept, .arrive connection stream, .close connection, .answer connection, .hand connection,
    .take]

/-- Connections are served one after another, the first one under this number, and then the time is
up. -/
def oneByOne : Nat → List (List UInt8) → List Event
  | _, [] => [.timeOut]
  | connection, stream :: streams =>
    serving connection stream ++ oneByOne (connection + 1) streams

theorem modify_last (cs : List Connection) (c : Connection) (f : Connection → Connection) :
    (cs ++ [c]).modify cs.length f = cs ++ [f c] := by
  induction cs with
  | nil => rfl
  | cons d cs ih =>
    rw [List.cons_append, List.length_cons, List.modify_succ_cons, ih, List.cons_append]

/-- What was returned stays so. -/
theorem step_result {result : Except SessionError CallbackEvent} (h : l.result? = some result)
    (e : Event) : (l.step e).result? = some result := by
  cases e with
  | accept => simp only [step, accept, h]
  | acceptFails reason => simp only [step, fail, h]
  | hand i =>
    simp only [step, hand, h]
    split
    · exact h
    · exact h
  | take => simp only [step, take, h]
  | timeOut => simp only [step, fail, h]
  | _ => exact h

theorem run_result {result : Except SessionError CallbackEvent} (h : l.result? = some result)
    (events : List Event) : (l.run events).result? = some result := by
  induction events generalizing l with
  | nil => exact h
  | cons e events ih => exact ih (step_result h e)

/-- A connection that is served alone. -/
theorem run_serving (hwaiting : l.result? = none) (hempty : l.channel = none)
    (stream : List UInt8) :
    l.run (serving l.connections.length stream) =
      { l with
        connections := l.connections ++ [⟨stream, true, .done (Served.ofStream stream)⟩]
        result? := (Served.ofStream stream).target?.map
          (fun target => .ok (Loopback.event l.port target)) } := by
  obtain ⟨port, cs, channel, result⟩ := l
  obtain rfl : result = none := hwaiting
  obtain rfl : channel = none := hempty
  have hsent : (Connection.start.arrive stream).close = ⟨stream, true, .reading⟩ := rfl
  simp only [serving, run_cons, run_nil, step, accept, update, modify_last, hsent,
    Connection.answer, Connection.isRead, Bool.true_or, and_self, if_true]
  cases Served.ofStream stream with
  | callback target =>
    simp only [hand, List.getElem?_concat_length, Option.bind_some, Connection.target?, update,
      modify_last, take, Connection.finish, Served.target?, Option.map_some]
  | _ =>
    -- There is nothing to hand over, and nothing to take.
    simp only [hand, List.getElem?_concat_length, Option.bind_some, Connection.target?, take,
      Served.target?, Option.map_none]

/-- The first connection of a listener, if its request is taken for the callback. -/
theorem run_callback (port : Nat) {stream : List UInt8} {target : String}
    (h : Served.ofStream stream = .callback target) :
    (start port).run (serving 0 stream) =
      ⟨port, [⟨stream, true, .done (.callback target)⟩], none,
        some (.ok (Loopback.event port target))⟩ := by
  have hrun := run_serving (l := start port) rfl rfl stream
  rw [h] at hrun
  exact hrun

/-- **Connections that are served one after another** end in the first callback among them. -/
theorem run_oneByOne (hwaiting : l.result? = none) (hempty : l.channel = none)
    (streams : List (List UInt8)) :
    (l.run (oneByOne l.connections.length streams)).result? =
      some (waitForCallback l.port streams) := by
  induction streams generalizing l with
  | nil =>
    simp only [oneByOne, run_cons, run_nil, step, fail, hwaiting]
    rfl
  | cons stream streams ih =>
    rw [oneByOne, run_append, run_serving hwaiting hempty, waitForCallback, List.findSome?_cons]
    cases htarget : (Served.ofStream stream).target? with
    | some target => exact run_result rfl _
    | none =>
      have hnext := ih (l := { l with
        connections := l.connections ++ [⟨stream, true, .done (Served.ofStream stream)⟩]
        result? := none }) rfl hempty
      rw [List.length_append, List.length_singleton] at hnext
      exact hnext

end Listener

/-! ## The path -/

/-- **When the listener keeps to its path.** Let the connections send what they may (`sent`). They are
all served as the path says exactly if all can be read and none is a lookalike. And exactly if none is
a lookalike, every run, with any number of connections in any order and with any timeouts, can only
return the callback of a connection that was read as a whole and asks for the callback's path. In any
case a connection is answered as its bytes say, or dropped. -/
theorem listener_keeps_to_its_path_iff (port : Nat) (sent : List UInt8 → Prop) :
    ((∀ stream, sent stream → KeepsToPath stream) ↔
      ∀ stream, sent stream → (∃ found, readTarget stream = .ok found) ∧ ¬ IsLookalike stream) ∧
    ((∀ events e,
        (∀ c ∈ ((Listener.start port).run events).answered, sent c.arrived) →
        ((Listener.start port).run events).result? = some (.ok e) →
          ∃ c ∈ ((Listener.start port).run events).answered, ∃ target, c.isRead = true ∧
            readTarget c.arrived = .ok (some target) ∧ pathOf target = callbackPath.toList ∧
            e = event port target) ↔
      ∀ stream, sent stream → ¬ IsLookalike stream) ∧
    ∀ events, ∀ c ∈ ((Listener.start port).run events).connections, c.Sound := by
  refine ⟨forall_congr' (fun stream => imp_congr_right (fun _ => keepsToPath_iff)),
    ⟨fun h stream hsent hlookalike => ?_, fun h events e hsent hresult => ?_⟩,
    fun events => ((Listener.sound_start port).run events).connections⟩
  · -- One connection is enough: it is served alone, and ends the wait.
    obtain ⟨target, htarget, hcallback, hother⟩ := isLookalike_iff.1 hlookalike
    have hserved : Served.ofStream stream = .callback target :=
      ofStream_eq_callback_iff.2 ⟨htarget, hcallback⟩
    have hrun := Listener.run_callback port hserved
    have honly : ∀ c ∈ ((Listener.start port).run (Listener.serving 0 stream)).answered,
        c.arrived = stream := by
      intro c hc
      rw [hrun] at hc
      rw [List.mem_singleton.1 (List.mem_filter.1 hc).1]
    obtain ⟨c, hc, found, -, hfound, hpath, -⟩ := h (Listener.serving 0 stream) (event port target)
      (fun c hc => honly c hc ▸ hsent) (by rw [hrun])
    rw [honly c hc, htarget] at hfound
    cases hfound
    exact hother hpath
  · obtain ⟨c, hc, target, hread, htarget, hcallback, hevent⟩ := Listener.run_returned port hresult
    refine ⟨c, hc, target, hread, htarget, ?_, hevent⟩
    by_contra hother
    exact h c.arrived (hsent c hc) (isLookalike_iff.2 ⟨target, htarget, hcallback, hother⟩)

/-- A request for another page ends the wait for the callback, and the callback that comes after it is
not waited for. -/
theorem neighbour_ends_the_wait :
    let target := "/callbackfoo?token=x"
    let stream := Text.bytes "GET /callbackfoo?token=x HTTP/1.1\r\nHost: 127.0.0.1\r\n\r\n"
    pathOf target = "/callbackfoo".toList ∧ Served.ofStream stream = .callback target ∧
      ¬ KeepsToPath stream ∧
      (∀ later, waitForCallback 49152 (stream :: later) = .ok (event 49152 target)) ∧
      ∀ later, ((Listener.start 49152).run (Listener.serving 0 stream ++ later)).result? =
        some (.ok (event 49152 target)) := by
  intro target stream
  have hpath : pathOf target = "/callbackfoo".toList := by decide
  have hhead : requestHead target ["Host: 127.0.0.1"] = stream := by decide +kernel
  have hfits : (requestHead target ["Host: 127.0.0.1"]).length ≤ headLimit := by decide +kernel
  have htarget : readTarget stream = .ok (some target) := by
    have hread := readTarget_requestHead (by decide)
      (fun _ hc => Text.forall_mem hc (by decide)) (by decide) hfits []
    rwa [List.append_nil, hhead] at hread
  have hserved : Served.ofStream stream = .callback target :=
    ofStream_eq_callback_iff.2 ⟨htarget, by decide⟩
  refine ⟨hpath, hserved, fun h => ?_, fun later => ?_, fun later => ?_⟩
  · have hsame := h.serves target hserved
    rw [hpath] at hsame
    exact absurd hsame (by decide)
  · simp only [waitForCallback, List.findSome?_cons, hserved, Served.target?]
  · rw [Listener.run_append, Listener.run_callback 49152 hserved]
    exact Listener.run_result rfl later

end RedirectLogin.Loopback
