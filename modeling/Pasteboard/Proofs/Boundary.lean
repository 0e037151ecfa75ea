import Pasteboard.Proofs.Course
import Pasteboard.Scripted

/-!
# What a command replies

A command ends by a rule that looks at its transfer alone, `Command.verdict`. Together with the
course of the transfer this settles two questions for every clipboard.

* When does a command reply at all? Whatever the hooks fail with, the failure becomes a reply, with
  one exception: a release hook that fails with something that has no tag
  (`Command.answer_ok_iff`). The transfer tags what happens before the release, and nothing tags
  what the release itself does.
* Which step does a failed reply blame? The reaching of the clipboard or the command's own
  operation, unless a hook used the tag of the other operation itself (`Command.blame_of_failed`).
-/

namespace Pasteboard

variable {β : Type}

/-! ### The replies that commands make -/

@[simp] theorem Reply.failure_text (kind : ReplyKind) (t : Text) :
    Reply.failure kind (.text t) = .ok ⟨false, none, some t⟩ := by
  have hname : Reply.errorField ≠ Reply.okField := by decide
  have hvalue : Reply.errorField ≠ Reply.valueField := by decide
  have hok : Reply.okField ≠ Reply.valueField := by decide
  simp [Reply.failure, Reply.make, Reply.validate, Reply.readOk, Fields.readOr, Fields.get?, hname,
    hvalue, hok, Value.readBool, Value.asText?, Value.readOptionalText, Except.mapError, bind,
    Except.bind]

@[simp] theorem Reply.success_text (t : Text) :
    Reply.success .text (.text t) = .ok ⟨true, some t, none⟩ := by
  have hname : Reply.valueField ≠ Reply.okField := by decide
  have hok : Reply.okField ≠ Reply.errorField := by decide
  have hvalue : Reply.valueField ≠ Reply.errorField := by decide
  simp [Reply.success, Reply.make, Reply.validate, Reply.readOk, Fields.readOr, Fields.get?, hname,
    hvalue, hok, Reply.readValue, Value.readBool, Value.asText?, Value.readOptionalText,
    Except.mapError, bind, Except.bind]

@[simp] theorem Reply.success_null :
    Reply.success .nothing .null = .ok ⟨true, none, none⟩ := by
  have hname : Reply.valueField ≠ Reply.okField := by decide
  have hok : Reply.okField ≠ Reply.errorField := by decide
  have hvalue : Reply.valueField ≠ Reply.errorField := by decide
  simp [Reply.success, Reply.make, Reply.validate, Reply.readOk, Fields.readOr, Fields.get?, hname,
    hvalue, hok, Reply.readValue, Value.readBool, Value.asText?, Value.readNothing,
    Except.mapError, bind, Except.bind]

/-- The flag of a reply is what its field reads as. -/
theorem Reply.readOk_of_validate {kind : ReplyKind} {fields : Fields} {reply : Reply}
    (h : Reply.validate kind fields = .ok reply) : Reply.readOk fields = .ok reply.ok := by
  simp only [Reply.validate] at h
  split at h
  · next hok _ _ =>
    injection h with h
    rw [hok, ← h]
  · cases h

/-- A reply with a value is a good one. -/
theorem Reply.ok_of_success {kind : ReplyKind} {v : Value} {reply : Reply}
    (h : Reply.success kind v = .ok reply) : reply.ok = true := by
  rcases hv : Reply.validate kind [(Reply.okField, .bool true), (Reply.valueField, v)]
    with faults | made
  · simp [Reply.success, Reply.make, hv, Except.mapError] at h
  · have hok : made.ok = true := by
      have hread := Reply.readOk_of_validate hv
      have hvalue : Reply.valueField ≠ Reply.okField := by decide
      simp [Reply.readOk, Fields.get?, hvalue, Value.readBool, Value.asText?, Except.mapError, bind,
        Except.bind] at hread
      exact hread
    simp only [Reply.success, Reply.make, hv, Except.mapError, Except.ok.injEq] at h
    rw [← h, hok]

/-! ### The verdict on a transfer -/

/-- What is passed on of a failure without a tag: a bare clipboard failure has no wording, which is
a failure of its own. -/
def Failure.passedOn (f : Failure) : Failure := if f.isClipboard then .unclassified f.shown else f

/-- How a command ends, given how its transfer ended. -/
def Command.verdict (op : Operation) : Except Failure Value → Except Failure Reply
  | .ok v => Reply.success (Reply.kindOf op) v
  | .error f => match f.headline with
    | some headline => .ok ⟨false, none, some (headline ++ ": " ++ f.message)⟩
    | none => .error f.passedOn

/-- A command ends by the verdict on its transfer. -/
theorem Command.fst_start_replying (op : Operation) (a : Action (Host β) Value) (host : Host β) :
    ((Command.replying op a).start host).1 = Command.verdict op (a.start host).1 := by
  simp only [Command.replying, Action.start_bind, Action.start_tryCatch, Action.start_map]
  rcases a.start host with ⟨f | v, after⟩
  · cases f with
    | init details => simp [Except.map, Failure.isClipboard, Command.failed, Action.start_bind,
        Failure.display, Failure.headline, Command.verdict, Host.notify]
    | operation op' details => cases op' <;> simp [Except.map, Failure.isClipboard, Command.failed,
        Action.start_bind, Failure.display, Failure.headline, Command.verdict, Host.notify]
    | clipboard details => simp [Except.map, Failure.isClipboard, Command.failed, Action.start_bind,
        Failure.display, Failure.headline, Command.verdict, Failure.passedOn]
    | _ => rfl
  · rfl

/-- A command does to the host what its transfer does, and sends at most a notice then. -/
theorem Command.snd_start_replying (op : Operation) (a : Action (Host β) Value) (host : Host β) :
    ∃ notices, ((Command.replying op a).start host).2 = { (a.start host).2 with notices } := by
  simp only [Command.replying, Action.start_bind, Action.start_tryCatch, Action.start_map]
  rcases a.start host with ⟨f | v, after⟩
  · simp only [Except.map]
    cases f.isClipboard with
    | false => exact ⟨after.notices, rfl⟩
    | true =>
      simp only [if_true, Action.start_pure, Command.failed, Action.start_bind,
        Action.start_ofResult]
      rcases f.display with g | message
      · exact ⟨after.notices, rfl⟩
      · exact ⟨_, rfl⟩
  · exact ⟨after.notices, rfl⟩

/-- A command does the transfer of its request on the clipboard of its container. -/
theorem Command.answer_eq (c : Container β) (r : Request) :
    Command.answer c r = Command.replying r.operation (c.clipboard.transfer r) := by
  cases r <;> rfl

/-- A command ends by the verdict on the outcome of its course. -/
theorem Command.fst_start_answer_eq (c : Container β) (r : Request) (host : Host β) :
    ((Command.answer c r).start host).1 =
      Command.verdict r.operation ((c.clipboard.course r host).outcome r.operation) := by
  rw [Command.answer_eq, Command.fst_start_replying, Clipboard.start_transfer]

/-- A command on an injected clipboard ends by the verdict on the outcome of its course. -/
theorem Command.fst_start_answer {c : Container β} {p : Clipboard (Host β)}
    (hc : c.adapter = .injected p) (r : Request) (host : Host β) :
    ((Command.answer c r).start host).1 =
      Command.verdict r.operation ((p.course r host).outcome r.operation) := by
  have hp : c.clipboard = p := by rw [Container.clipboard, hc]
  rw [Command.fst_start_answer_eq, hp]

/-- A command leaves the host as its course does, but for notices. -/
theorem Command.snd_start_answer (c : Container β) (r : Request) (host : Host β) :
    ∃ notices, ((Command.answer c r).start host).2 =
      { (c.clipboard.course r host).state with notices } := by
  obtain ⟨notices, h⟩ :=
    Command.snd_start_replying r.operation (c.clipboard.transfer r) host
  exact ⟨notices, by rw [Command.answer_eq, h, Clipboard.start_transfer]⟩

/-- A failure has a headline exactly if it has a tag. -/
theorem Failure.isTagged_iff_headline (f : Failure) :
    f.isTagged = true ↔ ∃ headline, f.headline = some headline := by
  cases f with
  | operation op details => cases op <;> simp [Failure.isTagged, Failure.headline]
  | _ => simp [Failure.isTagged, Failure.headline]

theorem Command.verdict_of_isTagged (op : Operation) {f : Failure} (hf : f.isTagged = true) :
    ∃ error, Command.verdict op (.error f) = .ok ⟨false, none, some error⟩ := by
  obtain ⟨headline, hh⟩ := (Failure.isTagged_iff_headline f).1 hf
  exact ⟨headline ++ ": " ++ f.message, by simp only [Command.verdict, hh]⟩

theorem Command.verdict_of_not_isTagged (op : Operation) {f : Failure} (hf : f.isTagged = false) :
    Command.verdict op (.error f) = .error f.passedOn := by
  have hnone : f.headline = none := by
    rcases hh : f.headline with _ | headline
    · rfl
    · have := (Failure.isTagged_iff_headline f).2 ⟨headline, hh⟩
      rw [hf] at this
      cases this
  simp only [Command.verdict, hnone]

/-! ### Clipboards for examples -/

/-- The clipboard whose handles have the given hooks. -/
def Clipboard.ofHooks (hooks : Hooks (Host β)) : Clipboard (Host β) where
  acquire := pure { hooks }

/-- A container with the default settings around a clipboard. -/
def Container.around (p : Clipboard (Host β)) : Container β where
  settings := ({} : Settings)
  adapter := .injected p
  injected := some p
  store := ⟨⟨"/", []⟩⟩

/-! ### Which failures become replies -/

/-- Every handle that the clipboard hands out hands over text when it hands over anything. -/
def Clipboard.HandsOverText (p : Clipboard (Host β)) : Prop :=
  ∀ s h s', p.acquire.start s = (.ok h, s') →
    ∀ t v t', h.hooks.get.start t = (.ok v, t') → ∃ text, v = .text text

/-- What the hook of a request hands over fits the kind of reply. -/
private theorem exists_success_of_served {p : Clipboard (Host β)} (hp : p.HandsOverText)
    {r : Request} {host after : Host β} {v : Value} {release : Except Failure Unit}
    (hs : p.course r host = .served (.ok v) release after) :
    ∃ reply, Reply.success (Reply.kindOf r.operation) v = .ok reply ∧ reply.ok = true := by
  rw [Clipboard.course] at hs
  rcases ha : p.acquire.start host with ⟨f | h, s₁⟩
  · simp [ha] at hs
  · simp only [ha] at hs
    split at hs
    · cases hs
    · injection hs with hv _ _
      cases r with
      | copy t =>
        simp only [Request.hook, Action.start_bind] at hv
        rcases hset : (h.hooks.set (.text t)).start s₁ with ⟨f | u, s₂⟩
        · simp [hset] at hv
        · simp only [hset, Action.start_pure] at hv
          injection hv with hv
          subst hv
          exact ⟨_, Reply.success_null, rfl⟩
      | read =>
        rcases hget : h.hooks.get.start s₁ with ⟨f | w, s₂⟩
        · simp [Request.hook, hget] at hv
        · simp only [Request.hook, hget] at hv
          injection hv with hv
          obtain ⟨t, ht⟩ := hp _ _ _ ha _ _ _ hget
          subst hv ht
          exact ⟨_, Reply.success_text t, rfl⟩

/-- **A command replies unless releasing the handle fails without a tag.** For every clipboard that
hands over text, whatever its hooks fail with: there is a reply exactly if the course of the
transfer does not leak, the reply is a good one exactly if no hook failed on an open handle, and
what escapes instead of a reply is what the release hook failed with. -/
theorem Command.answer_ok_iff {c : Container β} {p : Clipboard (Host β)}
    (hc : c.adapter = .injected p) (hp : p.HandsOverText) (r : Request) (host : Host β) :
    ((∃ reply, ((Command.answer c r).start host).1 = .ok reply) ↔ ¬ (p.course r host).Leaks) ∧
      (∀ reply, ((Command.answer c r).start host).1 = .ok reply →
        (reply.ok = true ↔ (p.course r host).Smooth)) ∧
      (∀ f, ((Command.answer c r).start host).1 = .error f →
        ∃ result g s, p.course r host = .served result (.error g) s ∧ f = g.passedOn) := by
  rw [Command.fst_start_answer hc, Course.leaks_iff r.operation,
    Course.smooth_iff r.operation]
  rcases ho : (p.course r host).outcome r.operation with f | v
  · cases hf : f.isTagged with
    | true =>
      -- a failure with a tag becomes a reply, wherever it came from
      obtain ⟨error, he⟩ := Command.verdict_of_isTagged r.operation hf
      rw [he]
      refine ⟨iff_of_true ⟨_, rfl⟩ ?_, fun reply hr => ?_, nofun⟩
      · rintro ⟨g, hg, hn⟩
        cases hg
        rw [hf] at hn
        cases hn
      · cases hr
        exact iff_of_false Bool.false_ne_true nofun
    | false =>
      -- one without a tag can only be that of the release hook
      rw [Command.verdict_of_not_isTagged _ hf]
      refine ⟨iff_of_false nofun (not_not_intro ⟨f, rfl, hf⟩), nofun, fun g hg => ?_⟩
      cases hg
      obtain ht | ⟨result, s, hs⟩ := Course.isTagged_or_released ho
      · rw [hf] at ht
        cases ht
      · exact ⟨result, f, s, hs, rfl⟩
  · obtain ⟨s, hs⟩ := Course.outcome_eq_ok_iff.1 ho
    obtain ⟨reply, hr, hok⟩ := exists_success_of_served hp hs
    simp only [Command.verdict, hr]
    refine ⟨iff_of_true ⟨_, rfl⟩ nofun, fun _ h => ?_, nofun⟩
    cases h
    exact iff_of_true hok ⟨v, rfl⟩

/-- A text cannot be put on the clipboard, and the release fails with the tag of the other
operation: there is a reply all the same. -/
theorem Command.answer_ok_iff_of_failing_hooks :
    let p : Clipboard (Host Unit) := .ofHooks
      ⟨pure (.text "v"), fun _ => throw (.timeout []), throw (.operation .read "gone")⟩
    ((Container.around p).adapter = .injected p ∧ p.HandsOverText) ∧
      ∃ reply, ((Command.answer (.around p) (.copy "x")).start (.bare ())).1 = .ok reply := by
  intro p
  have hp : p.HandsOverText := by
    intro s h s' ha t v t' hv
    cases ha
    cases hv
    exact ⟨"v", rfl⟩
  refine ⟨⟨rfl, hp⟩, (Command.answer_ok_iff rfl hp (.copy "x") (.bare ())).1.2 ?_⟩
  rintro ⟨result, f, s, h, hf⟩
  cases h
  cases hf

/-- A bare clipboard failure of the release hook escapes from a copy that has worked. -/
theorem Command.copy_fails_of_bare_release :
    let p : Clipboard (Host Unit) := .ofHooks
      ⟨pure (.text "v"), fun _ => pure (), throw (.clipboard "boom")⟩
    ((Command.copy (.around p) (.text "x")).start (.bare ())).1 =
      .error (.unclassified (Failure.clipboard "boom").shown) := by
  rfl

/-! ### Which step a reply blames -/

/-- The step that a user is told has failed. -/
inductive Blame
  /-- Getting at the clipboard. -/
  | reaching
  /-- An operation on it. -/
  | doing (op : Operation)

namespace Blame

/-- The failure with the tag for a step. -/
def failure : Blame → Text → Failure
  | reaching => .init
  | doing op => .operation op

/-- What the sentence about a failure of a step starts with: its headline and a colon. -/
def lead (b : Blame) : Text := (b.failure []).headline.getD [] ++ ": "

/-- A sentence with the lead of one step has the lead of no other step. -/
theorem startsWith_lead_iff (b b' : Blame) (details : Text) :
    (b.lead ++ details).startsWith b'.lead = true ↔ b' = b := by
  have hlead : ∀ b b' : Blame, b'.lead <+: b.lead → b' = b := by
    rintro (_ | _ | _) (_ | _ | _) h <;> first | rfl | exact absurd h (by decide +kernel)
  rw [Text.startsWith, List.isPrefixOf_iff_prefix]
  constructor
  · intro h
    obtain h | h := List.prefix_or_prefix_of_prefix h (List.prefix_append b.lead details)
    · exact hlead b b' h
    · exact (hlead b' b h).symm
  · rintro rfl
    exact List.prefix_append _ _

end Blame

/-- **A failed reply blames one step, and the right one unless a hook used the wrong tag.** The
reply has no value; its sentence starts with the lead of exactly one step; and that step is the
reaching of the clipboard or the operation of the command, unless the failure that decided had the
tag of the other operation when it came out of a hook. -/
theorem Command.blame_of_failed {c : Container β} {p : Clipboard (Host β)}
    (hc : c.adapter = .injected p) (r : Request) (host : Host β) {reply : Reply}
    (hr : ((Command.answer c r).start host).1 = .ok reply) (hf : reply.ok = false) :
    reply.value = none ∧ ∃ (b : Blame) (error : Text), reply.error = some error ∧
      (∀ b' : Blame, error.startsWith b'.lead = true ↔ b' = b) ∧
      ((b = .reaching ∨ b = .doing r.operation) ↔ ¬ (p.course r host).Mislabels r.operation) := by
  rw [Command.fst_start_answer hc] at hr
  rw [Course.mislabels_iff]
  rcases ho : (p.course r host).outcome r.operation with f | v
  · rw [ho] at hr
    cases f with
    | init details =>
      have hlead : reply = ⟨false, none, some (Blame.reaching.lead ++ details)⟩ := by
        cases hr
        rfl
      rw [hlead]
      refine ⟨rfl, .reaching, _, rfl, fun b' => Blame.startsWith_lead_iff _ b' details, ?_⟩
      exact iff_of_true (.inl rfl) (by rintro ⟨op', d, -, h⟩; cases h)
    | operation op details =>
      have hlead : reply = ⟨false, none, some ((Blame.doing op).lead ++ details)⟩ := by
        cases op <;> cases hr <;> rfl
      rw [hlead]
      refine ⟨rfl, .doing op, _, rfl, fun b' => Blame.startsWith_lead_iff _ b' details, ?_⟩
      constructor
      · rintro (h | h) ⟨op', d, hne, he⟩
        · cases h
        · cases h
          cases he
          exact hne rfl
      · intro h
        by_contra hb
        exact h ⟨op, details, fun he => hb (.inr (by rw [he])), rfl⟩
    | _ => cases hr
  · rw [ho] at hr
    rw [Reply.ok_of_success hr] at hf
    cases hf

/-- Reading fails because the clipboard is no longer there, and the reply blames the operation. -/
theorem Command.blame_of_failed_read :
    let p : Clipboard (Host Unit) := .ofHooks
      ⟨throw (.other "RuntimeError" (some "gone")), fun _ => pure (), pure ()⟩
    let reply : Reply := ⟨false, none, some "Failed to read from clipboard: gone"⟩
    (((Command.answer (.around p) .read).start (.bare ())).1 = .ok reply ∧ reply.ok = false) ∧
      reply.value = none ∧ ∃ (b : Blame) (error : Text), reply.error = some error ∧
        (∀ b' : Blame, error.startsWith b'.lead = true ↔ b' = b) ∧
        ((b = .reaching ∨ b = .doing .read) ↔ ¬ (p.course .read (.bare ())).Mislabels .read) := by
  intro p reply
  have hr : ((Command.answer (.around p) .read).start (.bare ())).1 = .ok reply := rfl
  exact ⟨⟨hr, rfl⟩, Command.blame_of_failed rfl .read (.bare ()) hr rfl⟩

/-- A copy tells the user that reading has failed if that is what the hook for setting says. -/
theorem Command.copy_blames_reading :
    let p : Clipboard (Host Unit) := .ofHooks
      ⟨pure (.text "v"), fun _ => throw (.operation .read "boom"), pure ()⟩
    ((Command.copy (.around p) (.text "x")).start (.bare ())).1 =
      .ok ⟨false, none, some "Failed to read from clipboard: boom"⟩ := by
  rfl

end Pasteboard
