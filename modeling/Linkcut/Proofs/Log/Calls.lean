import Linkcut.Log.Setup
import Linkcut.Proofs.Log.Losses

/-!
Calls that write. Where the outermost logger has the one writer of a setup, a call with a text and
fields writes the line of its entry to the standard output if the entry has one, and nothing
otherwise; and the loggers stay as ready as they were.
-/

set_option autoImplicit false

namespace Linkcut

namespace Parameters

variable {p : Parameters} {named : Named}

theorem checkNamed_of_free (htakes : p.takesNamed = true) {filled : List String}
    (hfree : ∀ e ∈ named, e.1 ∉ filled) : p.checkNamed filled named = .ok () := by
  induction named with
  | nil => rfl
  | cons e named ih =>
    have hfirst : filled.contains e.1 = false := by simpa using hfree e List.mem_cons_self
    have hrest := ih fun k hk => hfree k (List.mem_cons_of_mem _ hk)
    have hcons : p.checkNamed filled (e :: named) =
        (if filled.contains e.1 then .error (.repeatedArgument p.callee e.1)
          else if p.takesNamed || p.names.contains e.1 then .ok ()
          else .error (.unexpectedArgument p.callee e.1)) >>= fun _ : Unit =>
            p.checkNamed filled named := rfl
    rw [hcons, hfirst, htakes, hrest]
    rfl

/-- Named arguments that are no parameters are passed on as they are, and parameters without an
argument are what they are when left out. -/
theorem bind_of_free (htakes : p.takesNamed = true) {args : List Value}
    (hrequired : p.required.length ≤ args.length)
    (hmore : p.takesMore = true ∨ args.length ≤ p.names.length)
    (hfree : ∀ e ∈ named, e.1 ∉ owner :: p.names) :
    p.bind args named = .ok {
      values := args.take p.names.length ++
        (p.names.drop args.length).map fun n => (p.optional.lookup n).getD .none
      more := args.drop p.names.length
      named } := by
  have hcheck : p.checkNamed (owner :: p.names.take args.length) named = .ok () := by
    refine checkNamed_of_free htakes fun e he hmem => hfree e he ?_
    exact List.cons_subset_cons owner (List.take_subset _ _) hmem
  have hfits : (!p.takesMore && decide (p.names.length < args.length)) = false := by
    rcases hmore with h | h
    · simp [h]
    · simp [h]
  have hmissing : p.required.drop args.length = [] := List.drop_eq_nil_of_le hrequired
  have hlater : ∀ n ∈ p.names.drop args.length,
      ((named.lookup n).orElse fun _ => p.optional.lookup n).getD .none =
        (p.optional.lookup n).getD .none := by
    intro n hn
    have hnone : named.lookup n = none := by
      refine List.lookup_eq_none_iff.2 fun e he => bne_iff_ne.2 ?_
      rintro rfl
      exact hfree e he (List.mem_cons_of_mem _ (List.mem_of_mem_drop hn))
    rw [hnone]
    rfl
  have hkept : named.filter (fun e => !p.names.contains e.1) = named := by
    refine List.filter_eq_self.2 fun e he => ?_
    have hnot : e.1 ∉ p.names := fun h => hfree e he (List.mem_cons_of_mem _ h)
    simpa using hnot
  unfold bind
  rw [hcheck]
  simp only [hfits, hmissing, List.filter_nil, List.isEmpty_nil, Bool.not_true, hkept,
    List.map_congr_left hlater]
  rfl

end Parameters

namespace Log

namespace Act

variable {α β : Type} {p : Post} {d d' : Desk}

/-- What comes of an act at a post, and the desk after it. -/
def on (m : Act α) (p : Post) (d : Desk) : Except Fault α × Desk := ((m.run p).run).run d

@[simp] theorem on_pure (a : α) : (pure a : Act α).on p d = (.ok a, d) := rfl

@[simp] theorem on_get : (get : Act Desk).on p d = (.ok d, d) := rfl

@[simp] theorem on_read : (read : Act Post).on p d = (.ok p, d) := rfl

@[simp] theorem on_lift (r : Except Fault α) : (liftM r : Act α).on p d = (r, d) := by
  cases r <;> rfl

@[simp] theorem on_logger : logger.on p d = (.ok (d.loggers.get p.seat), d) := rfl

@[simp] theorem on_change (f : Logger → Logger) : (change f).on p d =
    (.ok (), { d with loggers := d.loggers.set (f (d.loggers.get p.seat)) p.seat }) := rfl

theorem on_bind (m : Act α) (f : α → Act β) : (m >>= f).on p d =
    match m.on p d with
    | (.ok a, d) => (f a).on p d
    | (.error e, d) => (.error e, d) := by
  simp only [on, ReaderT.run_bind, ExceptT.run_bind, StateT.run_bind]
  rcases ((m.run p).run).run d with ⟨_ | a, d⟩
  · rfl
  · rfl

theorem on_bind_of_ok {m : Act α} {f : α → Act β} {a : α} (h : m.on p d = (.ok a, d')) :
    (m >>= f).on p d = (f a).on p d' := by
  rw [on_bind, h]

end Act

namespace Setup

/-- The seat of the logger of status lines. -/
def ownSeat : Seat := .named rootName

/-- The outermost logger has the writer and the threshold of the setup. The logger of status lines
is as it was made, but for what it has answered about levels, and it never answered no. -/
structure Ready (s : Setup) (ls : Loggers) : Prop where
  handlers : ls.outermost.handlers = [.writer]
  threshold : ls.outermost.threshold = .number s.level
  own : ∃ answers, ls.get ownSeat = { name := rootName, answers } ∧ ∀ a ∈ answers, a.2 = true

variable {s : Setup} {ls : Loggers} {p : Post} {d : Desk} {level : Level}

theorem ready_loggers (s : Setup) : s.Ready s.loggers where
  handlers := rfl
  threshold := rfl
  own := ⟨[], rfl, by simp⟩

/-- Above the logger of status lines there is the outermost one alone. -/
theorem line_ownSeat (ls : Loggers) : ls.line ownSeat = [ls.get ownSeat, ls.outermost] := rfl

namespace Ready

theorem set (h : s.Ready ls) {answers : List (Key × Bool)} (hall : ∀ a ∈ answers, a.2 = true) :
    s.Ready (ls.set { name := rootName, answers } ownSeat) where
  handlers := h.handlers
  threshold := h.threshold
  own := ⟨answers, by rw [Loggers.get_set, if_pos rfl], hall⟩

theorem enter (h : s.Ready ls) : s.Ready (ls.enter ownSeat) := by
  obtain ⟨answers, hown, hall⟩ := h.own
  rw [Loggers.enter, hown]
  exact h.set hall

theorem threshold_eq (h : s.Ready ls) : ls.threshold ownSeat = .number s.level := by
  obtain ⟨answers, hown, -⟩ := h.own
  rw [Loggers.threshold, line_ownSeat, hown, List.findSome?_cons, List.findSome?_cons, h.threshold]
  by_cases hzero : s.level = 0
  · simp [Threshold.isSet, Threshold.level, hzero]
  · simp [Threshold.isSet, Threshold.level, hzero]

/-- A level that the setup lets pass makes a record, and the answer is kept. -/
theorem on_isEnabled (h : s.Ready d.loggers) (hseat : p.seat = ownSeat) (hpos : 0 < level)
    (hlevel : s.level ≤ level) : ∃ ls, s.Ready ls ∧
      (Act.isEnabled (.int level)).on p d = (.ok true, { d with loggers := ls }) := by
  obtain ⟨answers, hown, hall⟩ := h.own
  have hpasses : passes (d.loggers.threshold ownSeat).level (.int level) = .ok true := by
    simp [passes, h.threshold_eq, Threshold.level, hpos, hlevel]
  simp only [Act.isEnabled, Act.on_bind, Act.on_lift, Act.on_logger, hseat, hown, Value.key]
  cases hfound : answers.find? fun a => decide (a.1 = .int level) with
  | some a =>
    have ha : a.2 = true := hall a (List.mem_of_find?_eq_some hfound)
    refine ⟨d.loggers, h, ?_⟩
    simp only [Act.on_pure, ha]
  | none =>
    have hkept : ∀ a ∈ (Key.int level, true) :: answers, a.2 = true :=
      List.forall_mem_cons.2 ⟨rfl, hall⟩
    refine ⟨_, h.set hkept, ?_⟩
    simp only [Act.on_bind, Act.on_get, Act.on_read, Act.on_lift, Act.on_change, Act.on_pure,
      hseat, hown, hpasses]

/-- A record is written once, if it has a line. -/
theorem on_passOn (h : s.Ready d.loggers) (hseat : p.seat = ownSeat) {r : Record}
    {lines : Option String} (hwrite : p.writer.write r = .ok lines) :
    (Act.passOn r).on p d = (.ok (), { d with lines := lines.toList ++ d.lines }) := by
  obtain ⟨answers, hown, -⟩ := h.own
  simp only [Act.passOn, Act.on_bind, Act.on_get, Act.on_read, hseat, line_ownSeat, hown,
    h.handlers, List.forIn_cons, List.forIn_nil, Act.on_pure, Act.on_lift, hwrite]
  cases lines with
  | none => rfl
  | some l => rfl

end Ready

/-- The record that is made for a call with a text and fields is that of its entry. -/
theorem makeRecord_eq {name : String} {level : Level} (hname : (name, level) ∈ Method.ofLevels)
    (most : Nat) (logger : String) (source : Source) (message : String) (fields : Named) :
    makeRecord most logger source (.int level) (.str message) (.tuple []) (troubleOf .none)
        (.dict [(.str dataName, carried fields)]) =
      .ok (({ level, logger, message, fields } : Entry).record source) := by
  have hlevel : levelName most (.int level) = .ok (Level.text level) := by
    simp only [Method.ofLevels, List.mem_cons, List.not_mem_nil, or_false, Prod.mk.injEq] at hname
    rcases hname with ⟨-, rfl⟩ | ⟨-, rfl⟩ | ⟨-, rfl⟩ | ⟨-, rfl⟩ | ⟨-, rfl⟩ <;> rfl
  change (levelName most (.int level) >>= fun levelName =>
    Except.ok { ({ level, logger, message, fields } : Entry).record source with levelName }) = _
  rw [hlevel]
  rfl

section

variable (h : s.Ready d.loggers) (hseat : p.seat = ownSeat) {name : String}
  (hname : (name, level) ∈ Method.ofLevels) (hlevel : s.level ≤ level) (message : String)
  {fields : Named} (hfree : ∀ e ∈ fields, e.1 ∉ Parameters.owner :: Act.fieldParameters.names)
  {lines : Option String} (hwrite : p.writer.write
    (({ level, logger := rootName, message, fields } : Entry).record p.source) = .ok lines)

include h hseat hname hlevel hfree hwrite

/-- A call for a record with fields writes the line of its entry, if it has one. -/
theorem Ready.on_logFields : ∃ ls, s.Ready ls ∧
    (Act.logFields [.int level, .str message, .tuple []] fields).on p d =
      (.ok (), { lines := lines.toList ++ d.lines, loggers := ls }) := by
  have hpos : ∀ e ∈ Method.ofLevels, 0 < e.2 := by decide
  obtain ⟨ls, hls, henabled⟩ := h.on_isEnabled hseat (hpos _ hname) hlevel
  obtain ⟨answers, hown, -⟩ := hls.own
  have hbound : Act.fieldParameters.bind [.int level, .str message, .tuple []] fields =
      .ok { values := [.int level, .str message, .tuple [], .none, .none], named := fields } := by
    have hfits : 3 ≤ Act.fieldParameters.names.length := by decide
    exact Parameters.bind_of_free rfl (Nat.le_refl 3) (.inr hfits) hfree
  have hextra : withFields .none fields = .ok (.dict [(.str dataName, carried fields)]) := rfl
  have hmade := makeRecord_eq hname p.writer.most rootName p.source message fields
  have hpassed := Ready.on_passOn (s := s) (d := { d with loggers := ls }) hls hseat hwrite
  refine ⟨ls, hls, ?_⟩
  rw [Act.logFields, Act.on_bind, Act.on_lift, hbound]
  simp only [Bound.at, List.getD_cons_zero, List.getD_cons_succ]
  rw [Act.on_bind_of_ok henabled, if_pos rfl, Act.on_bind, Act.on_lift, hextra]
  simp only [Act.log, Act.on_bind, Act.on_read, Act.on_lift, Act.on_logger, hseat, hown]
  rw [hmade]
  simp only [Act.filter, Act.on_bind, Act.on_logger, hseat, hown]
  exact hpassed

/-- So does a call that is named after its level. -/
theorem Ready.on_act : ∃ ls, s.Ready ls ∧
    (Call.act ⟨name, [.str message], fields⟩).on p d =
      (.ok .none, { lines := lines.toList ++ d.lines, loggers := ls }) := by
  obtain ⟨ls, hls, hfields⟩ := h.on_logFields hseat hname hlevel message hfree hwrite
  obtain ⟨answers, hown, -⟩ := h.own
  have hnamed : ∀ e ∈ Method.ofLevels, Method.named? .structured e.1 =
      some (LoggerKind.structured.name ++ "." ++ e.1, .record e.2) := by decide
  have hfits : ∀ n ∈ ["self", "msg"], n ∈ Parameters.owner :: Act.fieldParameters.names := by decide
  have hbound : ∀ callee, ((Method.record level).parameters callee).bind [.str message] fields =
      .ok { values := [.str message], named := fields } := fun callee =>
    Parameters.bind_of_free rfl (Nat.le_refl 1) (.inl rfl)
      fun e he hmem => hfree e he (hfits _ hmem)
  have hrun : ∀ callee, (do
      let b ← ((Method.record level).parameters callee).bind [.str message] fields
      (Method.record level).run [.str message] fields b : Act Value).on p d =
        (.ok .none, { lines := lines.toList ++ d.lines, loggers := ls }) := fun callee => by
    have hat : (Act.logAt level { values := [.str message], named := fields }).on p d =
        (.ok (), { lines := lines.toList ++ d.lines, loggers := ls }) := by
      rw [Act.logAt, Act.on_bind_of_ok Act.on_logger, hseat, hown]
      exact hfields
    rw [Act.on_bind, Act.on_lift, hbound]
    exact Act.on_bind_of_ok hat
  refine ⟨ls, hls, ?_⟩
  rw [Call.act, Act.on_bind_of_ok Act.on_logger, hseat, hown]
  simp only [hnamed _ hname]
  exact hrun _

end

/-- What an entry adds to the standard output. -/
def written (s : Setup) (most : Nat) (now : Moment) (e : Entry) : String :=
  match (e.record source).render most s.form now s.debug with
  | .ok line => line ++ "\n"
  | .error _ => ""

/-- A call with a text and fields, at a level that passes, writes its entry. -/
theorem Ready.call_eq (h : s.Ready ls) {name : String} (hname : (name, level) ∈ Method.ofLevels)
    (hlevel : s.level ≤ level) (message : String) {fields : Named}
    (hfree : ∀ e ∈ fields, e.1 ∉ Parameters.owner :: Act.fieldParameters.names) (most : Nat)
    (now : Moment) : ∃ ls', s.Ready ls' ∧
    s.call most now rootName ⟨name, [.str message], fields⟩ ls =
      (.ok .none, s.written most now { level, logger := rootName, message, fields }, ls') := by
  let r := ({ level, logger := rootName, message, fields } : Entry).record source
  let p : Post := { seat := ownSeat, writer := s.writer most now, source }
  have hwrite : p.writer.write r = .ok (r.render most s.form now s.debug).toOption := by
    have hreaches : reaches r.level (s.writer most now).level = .ok true := by
      simp [r, Entry.record, reaches, writer, hlevel]
    rw [Writer.write, hreaches]
    cases hline : r.render most s.form now s.debug with
    | ok line => simp only [p, writer, hline, bind, Except.bind]; rfl
    | error f => simp only [p, writer, hline, bind, Except.bind]; rfl
  obtain ⟨ls', hls', hact⟩ := Ready.on_act (p := p) (d := { loggers := ls.enter ownSeat }) h.enter
    rfl hname hlevel message hfree hwrite
  refine ⟨ls', hls', ?_⟩
  have hseat : Loggers.seat rootName = ownSeat := by decide
  have hmake : Call.make ⟨name, [.str message], fields⟩ p (ls.enter ownSeat) =
      (.ok .none, (r.render most s.form now s.debug).toOption.toList.reverse, ls') := by
    rw [Act.on] at hact
    rw [Call.make, hact, List.append_nil]
  rw [Setup.call, hseat]
  simp only [p] at hmake
  rw [hmake, written]
  cases r.render most s.form now s.debug with
  | ok line => simp [Except.toOption]
  | error f => rfl

end Setup

end Log
end Linkcut
