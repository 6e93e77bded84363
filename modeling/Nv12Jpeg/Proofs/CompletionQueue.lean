import Mathlib.Data.List.Nodup
import Mathlib.Data.List.Perm.Basic
import Nv12Jpeg.CompletionQueue

/-!
# Completions reach the one who waits for them

The completions of a queue are those in its channel and those that are parked. Waiting for a key
moves completions from the channel to the parked ones, but loses none of them:

* `CompletionQueue.search` — what is found of a key, once the end of the wait for it is known;
* `CompletionQueue.wait_eq_ok` — a wait finds that, unless the clock cannot tell its end;
* `CompletionQueue.search_cases` — a search takes the completion of its key out of the queue if
  there is one, and otherwise takes none.
-/

namespace Nv12Jpeg.CompletionQueue

variable {κ τ : Type}

/-- The completions that were sent and not yet handed out. -/
def entries (queue : CompletionQueue κ τ) : List (κ × τ) := queue.channel ++ queue.parked

/-- A queue with the same ends and channel size, whose depth counts its channel. -/
structure Continues (next queue : CompletionQueue κ τ) : Prop where
  capacity_eq : next.capacity = queue.capacity
  senders_eq : next.senders = queue.senders
  receiving_eq : next.receiving = queue.receiving
  counted : next.depth = next.channel.length

variable [DecidableEq κ]

/-- What is found of a key: a parked completion, or the first one in the channel. -/
def search (queue : CompletionQueue κ τ) (key : κ) : Waited τ × CompletionQueue κ τ :=
  match queue.parked.lookup key with
  | some value =>
    (.received value, { queue with parked := queue.parked.filter fun entry => entry.1 ≠ key })
  | none => receive key queue.channel queue

theorem not_mem_of_lookup_eq_none {parked : List (κ × τ)} {key : κ}
    (absent : parked.lookup key = none) : key ∉ parked.map Prod.fst := by
  intro mem
  obtain ⟨entry, stored, rfl⟩ := List.mem_map.1 mem
  have differs := List.lookup_eq_none_iff.1 absent entry stored
  simp at differs

/-- A wait that comes to something has searched. -/
theorem wait_eq_ok {queue : CompletionQueue κ τ} {key : κ} {present : UInt64} {waitMs : Nat}
    {found : Waited τ × CompletionQueue κ τ} (waited : queue.wait key present waitMs = .ok found) :
    queue.search key = found := by
  rw [wait] at waited
  rw [search]
  cases parked : queue.parked.lookup key with
  | some value =>
    rw [parked] at waited
    exact Except.ok.inj waited
  | none =>
    rw [parked] at waited
    obtain ⟨_, _, searched⟩ := bind_eq_ok.1 waited
    exact Except.ok.inj searched

/-- A wait that does not begin has an end that the clock cannot tell. -/
theorem wait_eq_error {queue : CompletionQueue κ τ} {key : κ} {present : UInt64} {waitMs : Nat}
    {fault : Fault} (stopped : queue.wait key present waitMs = .error fault) :
    Clock.deadline present waitMs = .error fault := by
  rw [wait] at stopped
  cases parked : queue.parked.lookup key with
  | some value =>
    rw [parked] at stopped
    cases stopped
  | none =>
    rw [parked] at stopped
    cases ends : Clock.deadline present waitMs with
    | ok moment =>
      rw [ends] at stopped
      cases stopped
    | error _ =>
      rw [ends] at stopped
      cases stopped
      rfl

/-- A wait whose end the clock can tell is a search. -/
theorem wait_of_deadline (queue : CompletionQueue κ τ) (key : κ) {present : UInt64} {waitMs : Nat}
    {moment : Nat} (ends : Clock.deadline present waitMs = .ok moment) :
    queue.wait key present waitMs = .ok (queue.search key) := by
  rw [wait, search, ends]
  cases queue.parked.lookup key <;> rfl

theorem park_of_not_mem {parked : List (κ × τ)} {key : κ} (value : τ)
    (h : key ∉ parked.map Prod.fst) : park parked key value = (key, value) :: parked := by
  rw [park, List.filter_eq_self.2]
  intro entry mem
  rw [decide_eq_true_eq]
  rintro rfl
  exact h (List.mem_map_of_mem mem)

/-- Receiving takes the completion of the key out of the channel if it is there. Completions in
front of it are parked, all of them if it is not. -/
theorem receive_cases {key : κ} {channel : List (κ × τ)} {queue : CompletionQueue κ τ}
    (nodup : ((channel ++ queue.parked).map Prod.fst).Nodup)
    (unparked : key ∉ queue.parked.map Prod.fst) (counted : queue.depth = channel.length) :
    ∃ next : CompletionQueue κ τ, next.Continues queue ∧
      ((∃ value, receive key channel queue = (.received value, next) ∧
          (channel ++ queue.parked).Perm ((key, value) :: next.entries)) ∨
        (key ∉ (channel ++ queue.parked).map Prod.fst ∧
          receive key channel queue
            = (if queue.senders = 0 then .disconnected else .missing, next) ∧
          (channel ++ queue.parked).Perm next.entries)) := by
  induction channel generalizing queue with
  | nil =>
    refine ⟨{ queue with channel := [] }, ⟨rfl, rfl, rfl, counted⟩, .inr ⟨unparked, rfl, ?_⟩⟩
    exact List.Perm.refl _
  | cons entry rest ih =>
    obtain ⟨received, value⟩ := entry
    rw [List.length_cons] at counted
    by_cases asked : received = key
    · subst asked
      refine ⟨{ queue.lower with channel := rest }, ⟨rfl, rfl, rfl, ?_⟩, .inl ⟨value, ?_, ?_⟩⟩
      · show queue.depth - 1 = rest.length
        omega
      · rw [receive]
        exact if_pos rfl
      · exact List.Perm.refl _
    · have fresh : received ∉ (rest ++ queue.parked).map Prod.fst := (List.nodup_cons.1 nodup).1
      have parked : park queue.parked received value = (received, value) :: queue.parked :=
        park_of_not_mem value fun mem => fresh (by
          rw [List.map_append]
          exact List.mem_append_right _ mem)
      have moved : (rest ++ (received, value) :: queue.parked).Perm
          ((received, value) :: rest ++ queue.parked) := List.perm_middle
      obtain ⟨next, continues, outcome⟩ :=
        @ih { queue.lower with parked := (received, value) :: queue.parked }
          ((moved.map _).nodup_iff.2 nodup)
          (by
            rw [List.map_cons, List.mem_cons, not_or]
            exact ⟨Ne.symm asked, unparked⟩)
          (by
            show queue.depth - 1 = rest.length
            omega)
      refine ⟨next, ⟨continues.1, continues.2, continues.3, continues.4⟩, ?_⟩
      rw [receive]
      simp only [if_neg asked]
      rw [show queue.lower.parked = queue.parked from rfl, parked]
      obtain ⟨found, eq, perm⟩ | ⟨missing, eq, perm⟩ := outcome
      · exact .inl ⟨found, eq, moved.symm.trans perm⟩
      · exact .inr ⟨fun mem => missing ((moved.map _).mem_iff.2 mem), eq, moved.symm.trans perm⟩

/-- A search takes the completion of the key out of the queue if there is one, and otherwise takes
none. -/
theorem search_cases {queue : CompletionQueue κ τ} (key : κ)
    (nodup : (queue.entries.map Prod.fst).Nodup) (counted : queue.depth = queue.channel.length) :
    ∃ next : CompletionQueue κ τ, next.Continues queue ∧
      ((∃ value, queue.search key = (.received value, next) ∧
          queue.entries.Perm ((key, value) :: next.entries)) ∨
        (key ∉ queue.entries.map Prod.fst ∧
          queue.search key = (if queue.senders = 0 then .disconnected else .missing, next) ∧
          queue.entries.Perm next.entries)) := by
  rw [search]
  cases found : queue.parked.lookup key with
  | none => exact receive_cases nodup (not_mem_of_lookup_eq_none found) counted
  | some value =>
    obtain ⟨before, after, split, _⟩ := List.lookup_eq_some_iff.1 found
    have taken : queue.entries.Perm ((key, value) :: (queue.channel ++ (before ++ after))) := by
      rw [entries, split]
      exact (List.perm_middle.append_left queue.channel).trans List.perm_middle
    have once : key ∉ (queue.channel ++ (before ++ after)).map Prod.fst :=
      (List.nodup_cons.1 ((taken.map Prod.fst).nodup_iff.1 nodup)).1
    have others : queue.parked.filter (fun entry => entry.1 ≠ key) = before ++ after := by
      have differs : ∀ entry ∈ before ++ after, decide (entry.1 ≠ key) = true := by
        intro entry stored
        rw [decide_eq_true_eq]
        rintro rfl
        exact once (List.mem_map_of_mem (List.mem_append_right _ stored))
      rw [split, List.filter_append, List.filter_cons_of_neg (by simp), ← List.filter_append,
        List.filter_eq_self.2 differs]
    refine ⟨{ queue with parked := queue.parked.filter fun entry => entry.1 ≠ key },
      ⟨rfl, rfl, rfl, counted⟩, .inl ⟨value, rfl, ?_⟩⟩
    show queue.entries.Perm
      ((key, value) :: (queue.channel ++ queue.parked.filter fun entry => entry.1 ≠ key))
    rw [others]
    exact taken

end Nv12Jpeg.CompletionQueue
