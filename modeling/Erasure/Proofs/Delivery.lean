/-
This file says what a callback does over a whole run of a compiler. What it does on a
notification depends on nothing that happened before, so that a run comes to what its
notifications come to alone, one after the other, and pointers in front of the callback
change nothing. Of the handlers that were set for a topic only the last one is ever run,
so that two ways to set handlers cannot be told apart if they end with the same ones.
-/

import Erasure.Callback
import Mathlib.Data.List.Forall2

namespace Erasure

/-! ### Handlers that were set -/

namespace Handlers

theorem ext_get {handlers other : Handlers}
    (same : ∀ topic, handlers.get topic = other.get topic) : handlers = other := by
  cases handlers
  cases other
  exact (Handlers.mk.injEq ..).mpr ⟨same .classGenerated, same .sourceCompiled, same .unitStarted,
    same .advanced⟩

/-- The handlers that there are after some were set for topics, one after the other. -/
def build (calls : List (Topic × Nat)) : Handlers :=
  calls.foldl (fun handlers call => handlers.set call.1 call.2) {}

/-- Handlers that are numbered one after the other are built like any others. -/
theorem setAll_eq_foldl (handlers : Handlers) (next : Nat) (topics : List Topic) :
    handlers.setAll next topics =
      (topics.zipIdx next).foldl (fun handlers call => handlers.set call.1 call.2) handlers := by
  induction topics generalizing handlers next with
  | nil => rfl
  | cons topic rest inductionHypothesis => exact inductionHypothesis _ _

/-- A handler is the one that was set last for a topic. -/
def LastSet (calls : List (Topic × Nat)) (topic : Topic) (handler : Nat) : Prop :=
  ∃ before after, calls = before ++ (topic, handler) :: after ∧ ∀ call ∈ after, call.1 ≠ topic

/-- Either no handler was set for a topic, or one of them was set last. -/
theorem unset_or_lastSet (calls : List (Topic × Nat)) (topic : Topic) :
    (∀ call ∈ calls, call.1 ≠ topic) ∨ ∃ handler, LastSet calls topic handler := by
  induction calls with
  | nil => exact .inl (List.forall_mem_nil _)
  | cons call rest inductionHypothesis =>
    rcases inductionHypothesis with unset | ⟨handler, before, after, rfl, later⟩
    · by_cases same : call.1 = topic
      · exact .inr ⟨call.2, [], rest, by rw [← same]; rfl, unset⟩
      · exact .inl (List.forall_mem_cons.mpr ⟨same, unset⟩)
    · exact .inr ⟨handler, call :: before, after, rfl, later⟩

/-- Setting handlers for other topics leaves a topic alone. -/
theorem get_foldl_set {calls : List (Topic × Nat)} {topic : Topic}
    (unset : ∀ call ∈ calls, call.1 ≠ topic) (handlers : Handlers) :
    (calls.foldl (fun handlers call => handlers.set call.1 call.2) handlers).get topic =
      handlers.get topic := by
  induction calls generalizing handlers with
  | nil => rfl
  | cons call rest inductionHypothesis =>
    obtain ⟨different, others⟩ := List.forall_mem_cons.mp unset
    exact (inductionHypothesis others _).trans (handlers.get_set_other different.symm call.2)

theorem get_build_of_unset {calls : List (Topic × Nat)} {topic : Topic}
    (unset : ∀ call ∈ calls, call.1 ≠ topic) : (build calls).get topic = none := by
  rw [build, get_foldl_set unset]
  cases topic <;> rfl

theorem get_build_of_lastSet {calls : List (Topic × Nat)} {topic : Topic} {handler : Nat}
    (last : LastSet calls topic handler) : (build calls).get topic = some handler := by
  obtain ⟨before, after, rfl, later⟩ := last
  rw [build, List.foldl_append, List.foldl_cons, get_foldl_set later, get_set_self]

/-- The handler of a topic is the one that was set last for it. -/
theorem get_build_eq_some_iff {calls : List (Topic × Nat)} {topic : Topic} {handler : Nat} :
    (build calls).get topic = some handler ↔ LastSet calls topic handler := by
  refine ⟨fun found => ?_, get_build_of_lastSet⟩
  rcases unset_or_lastSet calls topic with unset | ⟨other, last⟩
  · rw [get_build_of_unset unset] at found
    cases found
  · rw [get_build_of_lastSet last] at found
    cases found
    exact last

theorem isSome_get_build_iff {calls : List (Topic × Nat)} {topic : Topic} :
    ((build calls).get topic).isSome = true ↔ ∃ call ∈ calls, call.1 = topic := by
  rw [Option.isSome_iff_exists]
  constructor
  · rintro ⟨handler, found⟩
    obtain ⟨before, after, rfl, _⟩ := get_build_eq_some_iff.mp found
    exact ⟨(topic, handler), List.mem_append_right _ List.mem_cons_self, rfl⟩
  · rintro ⟨call, member, same⟩
    rcases unset_or_lastSet calls topic with unset | ⟨handler, last⟩
    · exact absurd same (unset call member)
    · exact ⟨handler, get_build_of_lastSet last⟩

/-- Handlers cannot be told apart if the same ones were set last. -/
theorem build_eq_of_lastSet_iff {calls others : List (Topic × Nat)}
    (same : ∀ topic handler, LastSet calls topic handler ↔ LastSet others topic handler) :
    build calls = build others := by
  refine ext_get fun topic => Option.ext fun handler => ?_
  rw [get_build_eq_some_iff, get_build_eq_some_iff]
  exact same topic handler

/-- Any handlers can be set. -/
theorem exists_build (handlers : Handlers) : ∃ calls, handlers = build calls := by
  refine ⟨Topic.all.filterMap fun topic => (handlers.get topic).map (topic, ·), ?_⟩
  obtain ⟨_ | _, _ | _, _ | _, _ | _⟩ := handlers <;> rfl

/-- The description of handlers names every topic, with whether a handler was set for it. -/
theorem layout_build (calls : List (Topic × Nat)) :
    (build calls).layout = .record "FnCallback" (Topic.all.map fun topic =>
      (topic.name, .word (if ∃ call ∈ calls, call.1 = topic then "true" else "false"))) := by
  simp only [layout, isSome_get_build_iff]

example : (build [(.unitStarted, 0)]).layout.flat =
    "FnCallback \x7b on_class_generated: false, on_source_compiled: false, " ++
      "start_unit: true, advance: false \x7d" := by
  decide +kernel

end Handlers

namespace Callback

/-! ### Single notifications -/

/-- What a callback does on a notification alone. Nothing but the notification itself is told of it,
with all that it tells. -/
inductive Produces : Callback → Notification → List Reaction → Prop
  | silent (notification : Notification) : Produces silent notification []
  | classGenerated (source generated name : String) :
    Produces tracing (.classGenerated source generated name)
      [.logged ⟨.debug, "class generated",
        [("source", .text source), ("generated", .text generated), ("name", .text name)]⟩]
  | sourceCompiled (source : String) :
    Produces tracing (.sourceCompiled source)
      [.logged ⟨.debug, "source compiled", [("source", .text source)]⟩]
  | unitStarted (phase path : String) :
    Produces tracing (.unitStarted phase path)
      [.logged ⟨.trace, "unit started", [("phase", .text phase), ("source_path", .text path)]⟩]
  | advanced (current total : UInt32) :
    Produces tracing (.advanced current total)
      [.logged ⟨.trace, "progress",
        [("current", .number current.toNat), ("total", .number total.toNat)]⟩]
  | overridden {topics : List Topic} {notification : Notification}
    (member : notification.topic ∈ topics) :
    Produces (overriding topics) notification [.overridden notification]
  | ignored {topics : List Topic} {notification : Notification}
    (missing : notification.topic ∉ topics) : Produces (overriding topics) notification []
  /-- The handler runs that was set last for the topic, once, and no other. -/
  | handled {calls : List (Topic × Nat)} {notification : Notification} {handler : Nat}
    (last : Handlers.LastSet calls notification.topic handler) :
    Produces (handling (.build calls)) notification [.handled handler notification]
  | unhandled {calls : List (Topic × Nat)} {notification : Notification}
    (unset : ∀ call ∈ calls, call.1 ≠ notification.topic) :
    Produces (handling (.build calls)) notification []
  | forward (pointer : Pointer) {inner : Callback} {notification : Notification}
    {reactions : List Reaction} (produces : Produces inner notification reactions) :
    Produces (.forward pointer inner) notification reactions

/-- What a callback produces on a notification is settled. -/
theorem Produces.eq_deliver {callback : Callback} {notification : Notification}
    {reactions : List Reaction} (produces : callback.Produces notification reactions) :
    reactions = callback.deliver notification := by
  induction produces with
  | overridden member => exact (if_pos member).symm
  | ignored missing => exact (if_neg missing).symm
  | handled last => rw [deliver, Handlers.get_build_of_lastSet last]
  | unhandled unset => rw [deliver, Handlers.get_build_of_unset unset]
  | forward pointer produces inductionHypothesis => exact inductionHypothesis
  | _ => rfl

theorem produces_deliver (callback : Callback) (notification : Notification) :
    callback.Produces notification (callback.deliver notification) := by
  induction callback with
  | silent => exact .silent notification
  | tracing =>
    cases notification with
    | classGenerated source generated name => exact .classGenerated source generated name
    | sourceCompiled source => exact .sourceCompiled source
    | unitStarted phase path => exact .unitStarted phase path
    | advanced current total => exact .advanced current total
  | overriding topics =>
    rw [deliver]
    split
    · exact .overridden ‹_›
    · exact .ignored ‹_›
  | handling handlers =>
    obtain ⟨calls, rfl⟩ := handlers.exists_build
    rcases Handlers.unset_or_lastSet calls notification.topic with unset | ⟨handler, last⟩
    · rw [deliver, Handlers.get_build_of_unset unset]
      exact .unhandled unset
    · rw [deliver, Handlers.get_build_of_lastSet last]
      exact .handled last
  | forward pointer inner inductionHypothesis => exact .forward pointer inductionHypothesis

/-- Pointers pass every notification on as it is. -/
theorem deliver_behind (callback : Callback) (pointers : List Pointer)
    (notification : Notification) :
    (callback.behind pointers).deliver notification = callback.deliver notification := by
  induction pointers with
  | nil => rfl
  | cons pointer rest inductionHypothesis => exact inductionHypothesis

theorem layout?_behind (callback : Callback) (pointers : List Pointer) :
    (callback.behind pointers).layout? = callback.layout? := by
  induction pointers with
  | nil => rfl
  | cons pointer rest inductionHypothesis => exact inductionHypothesis

end Callback

/-! ### Runs -/

/-- A reaction with the number of earlier runs of the handler that ran in it. -/
def Reaction.counted (earlier : List Reaction) : Reaction → Reaction × Nat
  | handled handler notification =>
    (handled handler notification, Callback.runsOf handler earlier)
  | overridden notification => (overridden notification, 0)
  | logged record => (logged record, 0)

namespace Callback

variable {callback : Callback} {earlier : List Reaction}

theorem runsOf_perm {reactions others : List Reaction} (same : reactions.Perm others)
    (handler : Nat) : runsOf handler reactions = runsOf handler others :=
  same.countP_eq _

theorem counted_perm {others : List Reaction} (same : earlier.Perm others) (reaction : Reaction) :
    reaction.counted earlier = reaction.counted others := by
  cases reaction with
  | handled handler notification => rw [Reaction.counted, runsOf_perm same, Reaction.counted]
  | overridden notification => rfl
  | logged record => rfl

theorem deliverAll_cons (callback : Callback) (earlier : List Reaction)
    (notification : Notification) (rest : List Notification) :
    callback.deliverAll earlier (notification :: rest) =
      (callback.deliver notification).map (Reaction.counted earlier) ::
        callback.deliverAll ((callback.deliver notification).reverse ++ earlier) rest := by
  rw [deliverAll]
  congr
  funext reaction
  cases reaction <;> rfl

/-- A run is the run of its beginning, followed by the run of the rest after what was done in the
beginning. -/
theorem deliverAll_append (callback : Callback) (earlier : List Reaction)
    (before after : List Notification) :
    callback.deliverAll earlier (before ++ after) =
      callback.deliverAll earlier before ++
        callback.deliverAll ((before.flatMap callback.deliver).reverse ++ earlier) after := by
  induction before generalizing earlier with
  | nil => rfl
  | cons notification rest inductionHypothesis =>
    rw [List.cons_append, deliverAll_cons, deliverAll_cons, inductionHypothesis, List.flatMap_cons,
      List.reverse_append, List.append_assoc, List.cons_append]

/-- A run answers every notification. -/
theorem length_deliverAll (callback : Callback) (earlier : List Reaction)
    (notifications : List Notification) :
    (callback.deliverAll earlier notifications).length = notifications.length := by
  induction notifications generalizing earlier with
  | nil => rfl
  | cons notification rest inductionHypothesis =>
    rw [deliverAll_cons, List.length_cons, List.length_cons, inductionHypothesis]

/-- What is done on one notification of a run is what is done on it alone. -/
theorem getElem?_deliverAll (callback : Callback) (before after : List Notification)
    (notification : Notification) :
    (callback.deliverAll [] (before ++ notification :: after))[before.length]? =
      some ((callback.deliver notification).map
        (Reaction.counted (before.flatMap callback.deliver))) := by
  have reached := Nat.le_of_eq (callback.length_deliverAll [] before)
  rw [deliverAll_append, List.getElem?_append_right reached, length_deliverAll, Nat.sub_self,
    deliverAll_cons, List.getElem?_cons_zero, List.append_nil]
  congr 2
  exact funext fun reaction => counted_perm (List.reverse_perm _) reaction

theorem map_fst_deliverAll (callback : Callback) (earlier : List Reaction)
    (notifications : List Notification) :
    (callback.deliverAll earlier notifications).map (List.map Prod.fst) =
      notifications.map callback.deliver := by
  induction notifications generalizing earlier with
  | nil => rfl
  | cons notification rest inductionHypothesis =>
    have uncounted : Prod.fst ∘ Reaction.counted earlier = id := by
      funext reaction
      cases reaction <;> rfl
    rw [deliverAll_cons, List.map_cons, List.map_cons, inductionHypothesis, List.map_map, uncounted,
      List.map_id]

/-- Callbacks that do the same on every notification do the same in a run. -/
theorem deliverAll_congr {other : Callback}
    (same : ∀ notification, callback.deliver notification = other.deliver notification)
    (notifications : List Notification) :
    callback.deliverAll earlier notifications = other.deliverAll earlier notifications := by
  induction notifications generalizing earlier with
  | nil => rfl
  | cons notification rest inductionHypothesis =>
    rw [deliverAll_cons, deliverAll_cons, inductionHypothesis, same]

/-- The reactions of a whole run are the reactions to its notifications, in order. -/
theorem flatten_deliverAll (callback : Callback) (earlier : List Reaction)
    (notifications : List Notification) :
    (callback.deliverAll earlier notifications).flatten.map Prod.fst =
      notifications.flatMap callback.deliver := by
  rw [List.map_flatten, map_fst_deliverAll, List.flatMap_def]

theorem forall₂_deliverAll (callback : Callback) (notifications : List Notification) :
    List.Forall₂ callback.Produces notifications
      ((callback.deliverAll [] notifications).map (List.map Prod.fst)) := by
  rw [map_fst_deliverAll, List.forall₂_map_right_iff, List.forall₂_same]
  exact fun notification _ => callback.produces_deliver notification

/-! ### Delivery -/

/-- Callbacks deliver in order. In a run a callback does on each notification what it does on that
notification alone, which is settled, and a handler is told nothing else than how often it ran
before; pointers in front of the callback make no difference. Two ways to set handlers that set the
same one last for every topic make the same callback, handlers that are numbered one after the other
included, and the description of a callback made of handlers says for which topics one was set. -/
theorem delivers_in_order :
    (∀ (callback : Callback) (notifications : List Notification),
      List.Forall₂ callback.Produces notifications
        ((callback.deliverAll [] notifications).map (List.map Prod.fst)) ∧
      ∀ (before after : List Notification) (notification : Notification),
        notifications = before ++ notification :: after →
        ∃ reactions, callback.Produces notification reactions ∧
          (callback.deliverAll [] notifications)[before.length]? = some (reactions.map
            (Reaction.counted ((callback.deliverAll [] before).flatten.map Prod.fst)))) ∧
    (∀ {callback : Callback} {notification : Notification} {reactions others : List Reaction},
      callback.Produces notification reactions → callback.Produces notification others →
      reactions = others) ∧
    (∀ (callback : Callback) (pointers : List Pointer) (notifications : List Notification),
      (callback.behind pointers).deliverAll [] notifications =
        callback.deliverAll [] notifications) ∧
    (∀ calls others : List (Topic × Nat),
      (∀ topic handler, Handlers.LastSet calls topic handler ↔
        Handlers.LastSet others topic handler) →
      handling (.build calls) = handling (.build others)) ∧
    (∀ (topics : List Topic), handling (.setAll {} 0 topics) = handling (.build topics.zipIdx)) ∧
    ∀ (calls : List (Topic × Nat)) (pointers : List Pointer),
      ((handling (.build calls)).behind pointers).layout? =
        some (.record "FnCallback" (Topic.all.map fun topic =>
          (topic.name, .word (if ∃ call ∈ calls, call.1 = topic then "true" else "false")))) := by
  refine ⟨fun callback notifications => ⟨callback.forall₂_deliverAll notifications, ?_⟩,
    fun produces again => produces.eq_deliver.trans again.eq_deliver.symm,
    fun callback pointers => deliverAll_congr (callback.deliver_behind pointers),
    fun calls others same => congrArg handling (Handlers.build_eq_of_lastSet_iff same),
    fun topics => congrArg handling (Handlers.setAll_eq_foldl {} 0 topics),
    fun calls pointers => ?_⟩
  · rintro before after notification rfl
    refine ⟨_, callback.produces_deliver notification, ?_⟩
    rw [getElem?_deliverAll, flatten_deliverAll]
  · rw [layout?_behind, layout?, Handlers.layout_build]

/-- A handler that was replaced is never run, also behind two pointers, and cannot be told from one
that was never set. -/
theorem delivers_in_order_replaced :
    Handlers.LastSet [(.sourceCompiled, 0), (.unitStarted, 1), (.sourceCompiled, 2)]
      .sourceCompiled 2 ∧
    handling (.build [(.sourceCompiled, 0), (.unitStarted, 1), (.sourceCompiled, 2)]) =
      handling (.build [(.unitStarted, 1), (.sourceCompiled, 2)]) ∧
    ((handling (.build [(.sourceCompiled, 0), (.unitStarted, 1), (.sourceCompiled, 2)])).behind
        [.owned, .shared]).deliverAll []
        [.sourceCompiled "a.src", .advanced 1 2, .sourceCompiled "b.src"] =
      [[(.handled 2 (.sourceCompiled "a.src"), 0)], [],
        [(.handled 2 (.sourceCompiled "b.src"), 1)]] := by
  obtain ⟨_, _, pointers, replaced, _⟩ := delivers_in_order
  refine ⟨⟨[(.sourceCompiled, 0), (.unitStarted, 1)], [], rfl, List.forall_mem_nil _⟩, ?_, ?_⟩
  · refine replaced _ _ fun topic handler => ?_
    rw [← Handlers.get_build_eq_some_iff, ← Handlers.get_build_eq_some_iff]
    rfl
  · rw [pointers]
    rfl

end Callback

end Erasure
