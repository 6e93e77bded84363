import Nv12Jpeg.Proofs.CompletionQueue.Delivery

/-!
# What the statistics of a queue account for

A queue counts the completions in its channel and the parked ones. Keys may be used again, so a
completion can arrive for a key of which one is parked, and replaces it; such a completion is in
none of the counts.

* `CompletionQueue.replay` — the queue that uses lead to, and `CompletionQueue.replacedIn`, how many
  parked completions were replaced on the way;
* `CompletionQueue.Tallies` — what was sent was handed out, is in the channel, is parked or was
  replaced; every use keeps this: `Tallies.takes`;
* `CompletionQueue.Tallies.flows` and `CompletionQueue.History.peak_is_largest` — what a use counts
  up and down, and how far up the depth has been;
* `CompletionQueue.History.none_replaced` — completions with keys of their own replace none;
* `CompletionQueue.statistics_account_for_completions` — the counts of a queue at every moment.
-/

namespace Nv12Jpeg

/-- How many completions a wait hands out. -/
def Waited.handed {τ : Type} : Waited τ → Nat
  | .received _ => 1
  | .missing | .disconnected => 0

namespace CompletionQueue

variable {κ τ : Type} [DecidableEq κ]

/-- The queue that a use leaves. -/
def after (queue : CompletionQueue κ τ) : Use κ τ → CompletionQueue κ τ
  | .completed key value _ => (queue.complete key value).2
  | .cloned => queue.cloneSender
  | .dropped => queue.dropSender
  | .closed => queue.dropReceiver
  | .looked key _ _ | .waited key _ _ (.ok _) => (queue.search key).2
  | .waited _ _ _ (.error _) => queue

/-- The queue that uses leave, one after the other. -/
def replay (uses : List (Use κ τ)) (queue : CompletionQueue κ τ) : CompletionQueue κ τ :=
  uses.foldl after queue

/-- How many parked completions are replaced while the completions of a channel are received until
one of `key` comes. -/
def replacedWaiting (key : κ) : (channel parked : List (κ × τ)) → Nat
  | [], _ => 0
  | (received, value) :: rest, parked =>
    if received = key then 0
    else (if received ∈ parked.map Prod.fst then 1 else 0)
      + replacedWaiting key rest (park parked received value)

/-- How many parked completions a use replaces. A wait for a parked completion receives nothing, nor
does a wait that does not begin. -/
def replacedBy (queue : CompletionQueue κ τ) : Use κ τ → Nat
  | .looked key _ _ | .waited key _ _ (.ok _) =>
    if key ∈ queue.parked.map Prod.fst then 0
    else replacedWaiting key queue.channel queue.parked
  | .waited _ _ _ (.error _) | .completed _ _ _ | .cloned | .dropped | .closed => 0

/-- How many parked completions uses replace, one after the other. -/
def replacedIn : (uses : List (Use κ τ)) → CompletionQueue κ τ → Nat
  | [], _ => 0
  | use :: rest, queue => queue.replacedBy use + replacedIn rest (queue.after use)

theorem replay_append (early late : List (Use κ τ)) (queue : CompletionQueue κ τ) :
    replay (early ++ late) queue = replay late (replay early queue) :=
  List.foldl_append

theorem replacedIn_append (early late : List (Use κ τ)) (queue : CompletionQueue κ τ) :
    replacedIn (early ++ late) queue
      = replacedIn early queue + replacedIn late (replay early queue) := by
  induction early generalizing queue with
  | nil => exact (Nat.zero_add _).symm
  | cons use rest ih =>
    show queue.replacedBy use + replacedIn (rest ++ late) (queue.after use) = _
    rw [ih, ← Nat.add_assoc]
    rfl

theorem Takes.after_eq {queue next : CompletionQueue κ τ} {use : Use κ τ}
    (takes : Takes queue use next) : queue.after use = next := by
  cases takes with
  | completed _ _ sends => exact congrArg Prod.snd sends
  | cloned _ => rfl
  | dropped _ => rfl
  | closed _ => rfl
  | looked _ waits => exact congrArg Prod.snd (wait_eq_ok waits)
  | waited _ waits => exact congrArg Prod.snd (wait_eq_ok waits)
  | stopped _ _ => rfl

/-- A history is replayed to the queue that it leaves. -/
theorem History.replay_eq {capacity : Nat} {uses : List (Use κ τ)} {queue : CompletionQueue κ τ}
    (history : History (ofCapacity capacity) uses queue) :
    replay uses (ofCapacity capacity) = queue := by
  induction history with
  | opened => rfl
  | used _ takes ih =>
    rw [replay_append, ih]
    exact takes.after_eq

/-! ## Parking -/

/-- Of a store without repeated keys at most one completion has a key. -/
theorem length_filter_key {parked : List (κ × τ)}
    (distinct : (parked.map Prod.fst).Nodup) (key : κ) :
    (parked.filter fun entry => entry.1 ≠ key).length
        + (if key ∈ parked.map Prod.fst then 1 else 0)
      = parked.length := by
  have keys : (parked.filter fun entry => entry.1 ≠ key).map Prod.fst
      = (parked.map Prod.fst).erase key := by
    rw [distinct.erase_eq_filter, List.filter_map]
    congr 2
    funext entry
    simp [bne, Bool.beq_eq_decide_eq]
  have erased := List.length_erase (a := key) (l := parked.map Prod.fst)
  rw [← keys, List.length_map, List.length_map] at erased
  rw [erased]
  split
  case isTrue mem =>
    have : 0 < parked.length := List.length_map (f := Prod.fst) ▸ List.length_pos_of_mem mem
    omega
  case isFalse => rfl

theorem nodup_filter_key {parked : List (κ × τ)}
    (distinct : (parked.map Prod.fst).Nodup) (key : κ) :
    ((parked.filter fun entry => entry.1 ≠ key).map Prod.fst).Nodup :=
  (List.filter_sublist.map Prod.fst).nodup distinct

theorem nodup_park {parked : List (κ × τ)} (distinct : (parked.map Prod.fst).Nodup) (key : κ)
    (value : τ) : ((park parked key value).map Prod.fst).Nodup := by
  refine List.nodup_cons.2 ⟨fun mem => ?_, nodup_filter_key distinct key⟩
  obtain ⟨entry, kept, same⟩ := List.mem_map.1 mem
  exact of_decide_eq_true (List.mem_filter.1 kept).2 same

/-- Parking makes the store longer by one, unless it replaces. -/
theorem length_park {parked : List (κ × τ)} (distinct : (parked.map Prod.fst).Nodup) (key : κ)
    (value : τ) :
    (park parked key value).length + (if key ∈ parked.map Prod.fst then 1 else 0)
      = parked.length + 1 := by
  have others := length_filter_key distinct key
  rw [park, List.length_cons]
  omega

/-! ## Waiting -/

/-- What a search moves: it takes completions off the front of the channel, as many as it lowers the
depth by, and each was handed out, is parked or replaced a parked one. -/
structure Moves (queue next : CompletionQueue κ τ) (handed replaced : Nat) : Prop where
  capacity_eq : next.capacity = queue.capacity
  peak_eq : next.peak = queue.peak
  receiving_eq : next.receiving = queue.receiving
  distinct : (next.parked.map Prod.fst).Nodup
  taken : ∃ received, queue.channel = received ++ next.channel ∧
    queue.depth = received.length + next.depth ∧
    received.length + queue.parked.length = handed + next.parked.length + replaced

theorem receive_moves {key : κ} {channel : List (κ × τ)} {queue : CompletionQueue κ τ}
    (distinct : (queue.parked.map Prod.fst).Nodup) (counted : queue.depth = channel.length) :
    Moves { queue with channel } (receive key channel queue).2
      (Waited.handed (receive key channel queue).1) (replacedWaiting key channel queue.parked) := by
  induction channel generalizing queue with
  | nil =>
    refine ⟨rfl, rfl, rfl, distinct, [], rfl, (Nat.zero_add _).symm, ?_⟩
    show 0 + queue.parked.length = Waited.handed (ite ..) + queue.parked.length + 0
    split <;> rfl
  | cons entry rest ih =>
    obtain ⟨received, value⟩ := entry
    rw [List.length_cons] at counted
    rw [receive, replacedWaiting]
    by_cases asked : received = key
    · simp only [if_pos asked]
      refine ⟨rfl, rfl, rfl, distinct, [(received, value)], rfl, ?_, ?_⟩
      · show queue.depth = 1 + (queue.depth - 1)
        omega
      · rfl
    · simp only [if_neg asked]
      obtain ⟨lowered, lowered_eq⟩ : ∃ lowered : CompletionQueue κ τ,
          lowered = { queue.lower with parked := park queue.parked received value } := ⟨_, rfl⟩
      have parked_eq : lowered.parked = park queue.parked received value := by rw [lowered_eq]
      have depth_eq : lowered.depth = queue.depth - 1 := by rw [lowered_eq]; rfl
      obtain ⟨capacity_eq, peak_eq, receiving_eq, apart, front, split, taken, balance⟩ :=
        @ih lowered (parked_eq ▸ nodup_park distinct received value) (by omega)
      have length_eq := length_park distinct received value
      simp only at capacity_eq peak_eq receiving_eq split taken balance
      rw [parked_eq] at balance
      show Moves _
        (receive key rest { queue.lower with parked := park queue.parked received value }).2
        (Waited.handed (receive key rest
          { queue.lower with parked := park queue.parked received value }).1) _
      rw [← lowered_eq]
      refine ⟨?_, ?_, ?_, apart, (received, value) :: front, congrArg _ split, ?_, ?_⟩
      · rw [capacity_eq, lowered_eq]
        rfl
      · rw [peak_eq, lowered_eq]
        rfl
      · rw [receiving_eq, lowered_eq]
        rfl
      · simp only [List.length_cons]
        omega
      · simp only [List.length_cons]
        omega

theorem search_moves {queue : CompletionQueue κ τ} (key : κ)
    (distinct : (queue.parked.map Prod.fst).Nodup) (counted : queue.depth = queue.channel.length) :
    Moves queue (queue.search key).2 (Waited.handed (queue.search key).1)
      (if key ∈ queue.parked.map Prod.fst then 0
        else replacedWaiting key queue.channel queue.parked) := by
  rw [search]
  cases found : queue.parked.lookup key with
  | none =>
    rw [if_neg (not_mem_of_lookup_eq_none found)]
    exact receive_moves distinct counted
  | some value =>
    obtain ⟨before, rest, split, _⟩ := List.lookup_eq_some_iff.1 found
    have parked : key ∈ queue.parked.map Prod.fst := by
      rw [split, List.map_append, List.map_cons]
      exact List.mem_append_right _ List.mem_cons_self
    have others := length_filter_key distinct key
    rw [if_pos parked] at others ⊢
    refine ⟨rfl, rfl, rfl, nodup_filter_key distinct key, [], rfl, (Nat.zero_add _).symm, ?_⟩
    show 0 + queue.parked.length
      = 1 + (queue.parked.filter fun entry => entry.1 ≠ key).length + 0
    omega

/-! ## Tallies -/

/-- What was sent, as far as the receiver is there: it was handed out, is in the channel, is parked
or was replaced. -/
structure Tallies (capacity : Nat) (uses : List (Use κ τ))
    (queue : CompletionQueue κ τ) : Prop where
  capacity_eq : queue.capacity = max capacity 1
  distinct : (queue.parked.map Prod.fst).Nodup
  counted : queue.depth = queue.channel.length
  room : queue.channel.length ≤ queue.capacity
  balance : (sentIn uses).length = (handedIn uses).length + queue.channel.length
    + queue.parked.length + replacedIn uses (ofCapacity capacity)

namespace Tallies

variable {capacity : Nat} {uses : List (Use κ τ)} {queue next : CompletionQueue κ τ}

theorem opened (capacity : Nat) : Tallies capacity [] (ofCapacity capacity : CompletionQueue κ τ) :=
  ⟨rfl, List.nodup_nil, rfl, Nat.zero_le _, rfl⟩

/-- A use that leaves the channel and the parked completions as they are. -/
theorem idle {use : Use κ τ} (h : Tallies capacity uses queue)
    (replayed : replay uses (ofCapacity capacity) = queue)
    (capacity_eq : next.capacity = queue.capacity)
    (channel_eq : next.channel = queue.channel) (parked_eq : next.parked = queue.parked)
    (depth_eq : next.depth = queue.depth) (sends : sentIn [use] = []) (hands : handedIn [use] = [])
    (replaces : queue.replacedBy use = 0) : Tallies capacity (uses ++ [use]) next := by
  refine ⟨capacity_eq.trans h.capacity_eq, parked_eq ▸ h.distinct, ?_, ?_, ?_⟩
  · rw [depth_eq, channel_eq, h.counted]
  · rw [channel_eq, capacity_eq]
    exact h.room
  · rw [sentIn_append, sends, List.append_nil, handedIn_append, hands, List.append_nil, channel_eq,
      parked_eq, replacedIn_append, replayed, replacedIn, replaces]
    exact h.balance

/-- A completion that is sent is in the channel. -/
theorem sent {key : κ} {value : τ} (h : Tallies capacity uses queue)
    (roomy : queue.channel.length < queue.capacity) :
    Tallies capacity (uses ++ [.completed key value .queued])
      { queue.raise with channel := queue.channel ++ [(key, value)] } := by
  refine ⟨h.capacity_eq, h.distinct, ?_, ?_, ?_⟩
  · show queue.depth + 1 = (queue.channel ++ [(key, value)]).length
    rw [List.length_append, List.length_singleton, h.counted]
  · show (queue.channel ++ [(key, value)]).length ≤ queue.capacity
    rw [List.length_append, List.length_singleton]
    exact roomy
  · have balance := h.balance
    rw [replacedIn_append, sentIn_append, handedIn_append]
    simp only [sentIn, handedIn, replacedIn, replacedBy, List.filterMap_cons, List.filterMap_nil,
      List.length_append, List.length_singleton, List.append_nil, Nat.add_zero] at balance ⊢
    show _ = _ + _ + queue.parked.length + _
    omega

/-- A search, of a wait or of a look at what is there while waiting. -/
theorem moved {use : Use κ τ} {key : κ} (h : Tallies capacity uses queue)
    (replayed : replay uses (ofCapacity capacity) = queue) (sends : sentIn [use] = [])
    (hands : (handedIn [use]).length = (queue.search key).1.handed)
    (replaces : queue.replacedBy use = if key ∈ queue.parked.map Prod.fst then 0
      else replacedWaiting key queue.channel queue.parked) :
    Tallies capacity (uses ++ [use]) (queue.search key).2 := by
  obtain ⟨capacity_eq, -, -, distinct, received, channel_eq, depth_eq, balance⟩ :=
    search_moves key h.distinct h.counted
  have length_eq := congrArg List.length channel_eq
  rw [List.length_append] at length_eq
  have counted := h.counted
  refine ⟨capacity_eq.trans h.capacity_eq, distinct, by omega, ?_, ?_⟩
  · rw [capacity_eq]
    have := h.room
    omega
  · have before := h.balance
    rw [replacedIn_append, replayed, replacedIn, replacedIn, replaces, sentIn_append, sends,
      List.append_nil, handedIn_append, List.length_append, hands]
    omega

/-- Every use keeps the tallies, as long as the receiver is there. -/
theorem takes {use : Use κ τ} (h : Tallies capacity uses queue)
    (replayed : replay uses (ofCapacity capacity) = queue) (takes : Takes queue use next)
    (receiving : next.receiving = true) : Tallies capacity (uses ++ [use]) next := by
  have on := receiving_of_takes takes receiving
  cases takes with
  | completed _ room sends =>
    obtain ⟨-, rfl, rfl⟩ | ⟨off, -⟩ := complete_cases room sends
    · refine h.sent ?_
      rw [isFull, on, Bool.true_and, decide_eq_false_iff_not, h.counted] at room
      exact Nat.lt_of_not_le room
    · exact absurd (off.symm.trans on) Bool.false_ne_true
  | cloned _ => exact h.idle replayed rfl rfl rfl rfl rfl rfl rfl
  | dropped _ => exact h.idle replayed rfl rfl rfl rfl rfl rfl rfl
  | closed _ => cases receiving
  | @looked _ key _ _ _ waits =>
    have searched := wait_eq_ok waits
    have missed : (queue.search key).1 = .missing := congrArg Prod.fst searched
    obtain rfl : (queue.search key).2 = next := congrArg Prod.snd searched
    exact h.moved replayed rfl (by rw [missed]; rfl) rfl
  | @waited _ key _ _ outcome _ waits =>
    have searched := wait_eq_ok waits
    obtain rfl : (queue.search key).1 = outcome := congrArg Prod.fst searched
    obtain rfl : (queue.search key).2 = next := congrArg Prod.snd searched
    refine h.moved replayed rfl ?_ rfl
    cases (queue.search key).1 <;> rfl
  | stopped _ _ => exact h.idle replayed rfl rfl rfl rfl rfl rfl rfl

end Tallies

variable {capacity : Nat} {uses : List (Use κ τ)} {queue : CompletionQueue κ τ}

theorem History.tallies (history : History (ofCapacity capacity) uses queue)
    (receiving : queue.receiving = true) :
    Tallies capacity uses queue := by
  induction history with
  | opened => exact .opened capacity
  | used history takes ih =>
    exact (ih (receiving_of_takes takes receiving)).takes history.replay_eq takes receiving

/-- A use moves completions through the channel, what is sent in at the back and what is received
out at the front, and the depth counts both. The peak follows the depth. -/
theorem Tallies.flows {use : Use κ τ} {next : CompletionQueue κ τ} (h : Tallies capacity uses queue)
    (takes : Takes queue use next) (receiving : next.receiving = true) :
    ∃ received, queue.channel ++ sentIn [use] = received ++ next.channel ∧
      queue.depth + (sentIn [use]).length = received.length + next.depth ∧
      (next.peak = max queue.peak next.depth ∨
        next.peak = queue.peak ∧ next.depth ≤ queue.depth) := by
  have waits (key : κ) : ∃ received,
      queue.channel ++ [] = received ++ (queue.search key).2.channel ∧
      queue.depth + 0 = received.length + (queue.search key).2.depth ∧
      ((queue.search key).2.peak = max queue.peak (queue.search key).2.depth ∨
        (queue.search key).2.peak = queue.peak ∧ (queue.search key).2.depth ≤ queue.depth) := by
    obtain ⟨-, peak_eq, -, -, received, channel_eq, depth_eq, -⟩ :=
      search_moves key h.distinct h.counted
    exact ⟨received, by rw [List.append_nil, channel_eq], depth_eq, .inr ⟨peak_eq, by omega⟩⟩
  have idle : ∃ received, queue.channel ++ [] = received ++ queue.channel ∧
      queue.depth + 0 = received.length + queue.depth ∧
      (queue.peak = max queue.peak queue.depth ∨
        queue.peak = queue.peak ∧ queue.depth ≤ queue.depth) :=
    ⟨[], List.append_nil _, (Nat.zero_add _).symm, .inr ⟨rfl, Nat.le_refl _⟩⟩
  cases takes with
  | completed _ room sends =>
    obtain ⟨-, rfl, rfl⟩ | ⟨off, -, rfl⟩ := complete_cases room sends
    · exact ⟨[], rfl, (Nat.zero_add _).symm, .inl rfl⟩
    · exact absurd (off.symm.trans receiving) Bool.false_ne_true
  | cloned _ | dropped _ | stopped _ _ => exact idle
  | closed _ => cases receiving
  | @looked _ key _ _ _ waited =>
    obtain rfl : (queue.search key).2 = next := congrArg Prod.snd (wait_eq_ok waited)
    exact waits key
  | @waited _ key _ _ _ _ waited =>
    obtain rfl : (queue.search key).2 = next := congrArg Prod.snd (wait_eq_ok waited)
    exact waits key

/-- The peak is the largest depth there has been. -/
theorem History.peak_is_largest (history : History (ofCapacity capacity) uses queue)
    (receiving : queue.receiving = true) :
    (∀ before, before <+: uses → (replay before (ofCapacity capacity)).depth ≤ queue.peak) ∧
      ∃ before, before <+: uses ∧ (replay before (ofCapacity capacity)).depth = queue.peak := by
  induction history with
  | opened =>
    refine ⟨fun before prior => ?_, [], List.nil_prefix, rfl⟩
    cases List.prefix_nil.1 prior
    exact Nat.le_refl _
  | @used uses queue use next history takes ih =>
    have on := receiving_of_takes takes receiving
    obtain ⟨highest, before, prior, reached⟩ := ih on
    have now : (replay uses (ofCapacity capacity)).depth ≤ queue.peak :=
      highest uses List.prefix_rfl
    have last : replay (uses ++ [use]) (ofCapacity capacity) = next :=
      (History.used history takes).replay_eq
    rw [history.replay_eq] at now
    obtain ⟨-, -, -, peak_cases⟩ := (history.tallies on).flows takes receiving
    constructor
    · intro before prior
      rcases List.prefix_concat_iff.1 prior with rfl | prior
      · rw [last]
        omega
      · have := highest before prior
        omega
    · rcases Nat.lt_or_ge queue.peak next.peak with higher | same
      · exact ⟨uses ++ [use], List.prefix_rfl, by rw [last]; omega⟩
      · exact ⟨before, prior.trans (List.prefix_append _ _), by omega⟩

/-! ## Keys of their own -/

theorem replacedWaiting_of_nodup {key : κ} {channel parked : List (κ × τ)}
    (nodup : ((channel ++ parked).map Prod.fst).Nodup) :
    replacedWaiting key channel parked = 0 := by
  induction channel generalizing parked with
  | nil => rfl
  | cons entry rest ih =>
    obtain ⟨received, value⟩ := entry
    have later : received ∉ (rest ++ parked).map Prod.fst := (List.nodup_cons.1 nodup).1
    have fresh : received ∉ parked.map Prod.fst := fun mem => later (by
      rw [List.map_append]
      exact List.mem_append_right _ mem)
    have moved : (rest ++ (received, value) :: parked).Perm ((received, value) :: rest ++ parked) :=
      List.perm_middle
    rw [replacedWaiting, if_neg fresh, park_of_not_mem value fresh,
      ih ((moved.map _).nodup_iff.2 nodup)]
    exact ite_self 0

/-- A search leaves keys apart that were so. -/
theorem nodup_search {queue : CompletionQueue κ τ} (nodup : (queue.entries.map Prod.fst).Nodup)
    (counted : queue.depth = queue.channel.length) (key : κ) :
    ((queue.search key).2.entries.map Prod.fst).Nodup := by
  obtain ⟨left, -, ⟨_, eq, perm⟩ | ⟨-, eq, perm⟩⟩ := search_cases key nodup counted
  · rw [eq]
    exact (List.nodup_cons.1 ((perm.map Prod.fst).nodup_iff.1 nodup)).2
  · rw [eq]
    exact (perm.map Prod.fst).nodup_iff.1 nodup

/-- Completions whose keys are not in the queue when they are sent replace none. -/
theorem History.none_replaced (history : History (ofCapacity capacity) uses queue)
    (receiving : queue.receiving = true)
    (fresh : ∀ before key value later, uses = before ++ .completed key value .queued :: later →
      key ∉ (replay before (ofCapacity capacity)).entries.map Prod.fst) :
    (queue.entries.map Prod.fst).Nodup ∧ replacedIn uses (ofCapacity capacity) = 0 := by
  induction history with
  | opened => exact ⟨List.nodup_nil, rfl⟩
  | @used uses queue use next history takes ih =>
    have on := receiving_of_takes takes receiving
    obtain ⟨nodup, none⟩ := ih on fun before key value later split =>
      fresh before key value (later ++ [use]) (by rw [split, List.append_assoc, List.cons_append])
    have counted := (history.tallies on).counted
    have unreplaced (key : κ) : (if key ∈ queue.parked.map Prod.fst then 0
        else replacedWaiting key queue.channel queue.parked) = 0 := by
      rw [replacedWaiting_of_nodup nodup]
      exact ite_self 0
    rw [replacedIn_append, history.replay_eq, none]
    cases takes with
    | @completed _ key value _ _ room sends =>
      refine ⟨?_, rfl⟩
      obtain ⟨-, rfl, rfl⟩ | ⟨off, -, rfl⟩ := complete_cases room sends
      · have unused := fresh uses key value [] rfl
        rw [history.replay_eq] at unused
        have added : (queue.channel ++ [(key, value)] ++ queue.parked).Perm
            ((key, value) :: queue.entries) := by
          rw [List.append_assoc]
          exact List.perm_middle
        exact (added.map Prod.fst).nodup_iff.2 (List.nodup_cons.2 ⟨unused, nodup⟩)
      · exact absurd (off.symm.trans receiving) Bool.false_ne_true
    | cloned _ | dropped _ | stopped _ _ => exact ⟨nodup, rfl⟩
    | closed _ => cases receiving
    | @looked _ key _ _ _ waits =>
      obtain rfl : (queue.search key).2 = next := congrArg Prod.snd (wait_eq_ok waits)
      exact ⟨nodup_search nodup counted key, by rw [replacedIn, replacedIn, replacedBy, unreplaced]⟩
    | @waited _ key _ _ _ _ waits =>
      obtain rfl : (queue.search key).2 = next := congrArg Prod.snd (wait_eq_ok waits)
      exact ⟨nodup_search nodup counted key, by rw [replacedIn, replacedIn, replacedBy, unreplaced]⟩

/-- At every moment while the receiver is there, the completions sent were handed out, are in the
channel or parked, or were parked and then replaced by a later one of the same key; none is replaced
if none is sent under a key that is still in the queue. The depth is the number of completions in
the channel and at most its capacity, the peak is the largest depth there has been, and every use
counts the depth up by what it sends and down by what it receives, never below zero. -/
theorem statistics_account_for_completions (history : History (ofCapacity capacity) uses queue)
    (receiving : queue.receiving = true) :
    (sentIn uses).length = (handedIn uses).length + queue.depth + queue.parkedCount
        + replacedIn uses (ofCapacity capacity) ∧
    ((∀ before key value later, uses = before ++ .completed key value .queued :: later →
        key ∉ (replay before (ofCapacity capacity)).entries.map Prod.fst) →
      replacedIn uses (ofCapacity capacity) = 0) ∧
    queue.depth = queue.channel.length ∧ queue.depth ≤ max capacity 1 ∧
    (∀ before, before <+: uses → (replay before (ofCapacity capacity)).depth ≤ queue.peak) ∧
    (∃ before, before <+: uses ∧ (replay before (ofCapacity capacity)).depth = queue.peak) ∧
    ∀ before use later, uses = before ++ use :: later →
      ∃ received,
        (replay before (ofCapacity capacity)).channel ++ sentIn [use]
          = received ++ (replay (before ++ [use]) (ofCapacity capacity)).channel ∧
        (replay before (ofCapacity capacity)).depth + (sentIn [use]).length
          = received.length + (replay (before ++ [use]) (ofCapacity capacity)).depth := by
  have tallies := history.tallies receiving
  obtain ⟨highest, reached⟩ := history.peak_is_largest receiving
  refine ⟨?_, fun fresh => (history.none_replaced receiving fresh).2, tallies.counted, ?_, highest,
    reached, ?_⟩
  · rw [tallies.counted]
    exact tallies.balance
  · rw [tallies.counted, ← tallies.capacity_eq]
    exact tallies.room
  · intro before use later split
    obtain ⟨earlier, next, sofar, takes, on⟩ := history.split split
    have on := on receiving
    rw [sofar.replay_eq, (History.used sofar takes).replay_eq]
    obtain ⟨received, channel_eq, depth_eq, -⟩ :=
      (sofar.tallies (receiving_of_takes takes on)).flows takes on
    exact ⟨received, channel_eq, depth_eq⟩

/-- A key that is used again after its completion was handed out replaces none. -/
theorem statistics_account_for_completions_of_reused_key :
    ∃ queue : CompletionQueue Nat Nat,
      History (ofCapacity 2) [.completed 1 10 .queued, .completed 2 20 .queued,
        .waited 2 0 5 (.ok (.received 20)), .waited 1 0 5 (.ok (.received 10)),
        .completed 1 11 .queued] queue ∧
      queue.receiving = true ∧ queue.depth + queue.parkedCount = 1 ∧ queue.depth ≤ max 2 1 := by
  have history : History (ofCapacity 2) [.completed 1 10 .queued, .completed 2 20 .queued,
      .waited 2 0 5 (.ok (.received 20)), .waited 1 0 5 (.ok (.received 10)),
      .completed 1 11 .queued] _ :=
    .used (.used (.used (.used (.used .opened (.completed (by decide) (by decide) rfl))
      (.completed (by decide) (by decide) rfl))
      (.waited (by decide) (wait_of_deadline _ 2 (Clock.deadline_of_covers (by decide) 0))))
      (.waited (by decide) rfl)) (.completed (by decide) (by decide) rfl)
  obtain ⟨balance, -, -, room, -⟩ := statistics_account_for_completions history rfl
  exact ⟨_, history, rfl, by decide, room⟩

/-- Two completions of one key that wait for another key's: the second replaces the first, and the
statistics of the queue count one of them. -/
theorem repeated_key_is_replaced :
    ∃ queue : CompletionQueue Nat Nat,
      History (ofCapacity 4) [.completed 1 10 .queued, .completed 1 11 .queued,
        .waited 2 0 0 (.ok .missing)] queue ∧
      queue.receiving = true ∧
      (sentIn (τ := Nat) [.completed 1 10 .queued, .completed 1 11 .queued,
          .waited 2 0 0 (.ok .missing)]).length
        ≠ (handedIn (τ := Nat) [.completed 1 10 .queued, .completed 1 11 .queued,
            .waited 2 0 0 (.ok .missing)]).length + queue.depth + queue.parkedCount :=
  ⟨_, .used (.used (.used .opened (.completed (by decide) (by decide) rfl))
      (.completed (by decide) (by decide) rfl))
    (.waited (by decide) (wait_of_deadline _ 2 (Clock.deadline_of_covers (by decide) 0))),
    rfl, by decide⟩

end CompletionQueue

end Nv12Jpeg
