import Mathlib.Data.Option.Basic
import OnlyTwo.WorkerBuffers
import OnlyTwo.ReplayWindow

/-!
No key that the worker still holds is ever overwritten. The arrays behind the references of
`WorkerBuffers` hold what the value model `Worker` holds, after every request: a `zeroize` only
reaches arrays that the state has let go. The key store of the value model is then the key store
of the arrays.
-/

namespace OnlyTwo.CryptoWorker.WorkerBuffers

open Bytes Envelope Buffers

def Holds (memory : Buffers Bytes) (ref : Nat) (bytes : Bytes) : Prop :=
  memory.read? ref = some bytes

section Arrays
variable {memory after : Buffers Bytes} {mine : Nat → Prop}

theorem Holds.read {ref : Nat} {bytes : Bytes} (holds : Holds memory ref bytes) :
    WorkerBuffers.read memory ref = bytes := by
  simp only [Holds] at holds
  simp only [WorkerBuffers.read, holds, Option.getD_some]

theorem zeroize_keeps (memory : Buffers Bytes) {spent : Option Nat}
    (unheld : ∀ ref, spent = some ref → ¬ mine ref) : Keeps mine memory (zeroize memory spent) := by
  cases spent with
  | none => exact Keeps.refl mine memory
  | some ref => exact Keeps.modify memory _ (unheld ref rfl)

theorem zeroizeAll_keeps (memory : Buffers Bytes) (refs : List Nat)
    (unheld : ∀ ref ∈ refs, ¬ mine ref) : Keeps mine memory (zeroizeAll memory refs) := by
  induction refs generalizing memory with
  | nil => exact Keeps.refl mine memory
  | cons ref rest ih =>
      have first : Keeps mine memory (zeroize memory (some ref)) :=
        Keeps.modify memory _ (unheld ref List.mem_cons_self)
      exact first.trans (ih _ fun other member => unheld other (List.mem_cons_of_mem ref member))

theorem zeroizeTried_keeps (frame : Frame) (memory : Buffers Bytes) {messageKey : Nat}
    (used : Bytes) (unheld : ¬ mine messageKey) :
    Keeps mine memory (zeroizeTried frame memory messageKey used) := by
  unfold zeroizeTried
  split
  · exact Keeps.modify memory _ unheld
  · exact Keeps.refl mine memory

/-- One derivation: two new arrays, and every old one is as it was. -/
structure Derived (web : WebCrypto) (before : Buffers Bytes) (chainKey : Bytes)
    (step : ChainBuffers) : Prop where
  next : Holds step.memory step.next (CryptoWorker.deriveStep web chainKey).next
  message : Holds step.memory step.message (CryptoWorker.deriveStep web chainKey).message
  apart : step.next ≠ step.message
  newNext : before.read? step.next = none
  newMessage : before.read? step.message = none
  keeps : Keeps (fun _ => True) before step.memory

theorem deriveStep_derived (web : WebCrypto) {chainKey : Nat} {bytes : Bytes}
    (held : Holds memory chainKey bytes) :
    Derived web memory bytes (deriveStep web memory chainKey) := by
  simp only [deriveStep, held.read]
  set derived := CryptoWorker.deriveStep web bytes with named
  have first : Keeps (fun _ => True) memory (memory.alloc derived.next).1 := Keeps.alloc _ _ _
  have second : Keeps (fun _ => True) (memory.alloc derived.next).1
      ((memory.alloc derived.next).1.alloc derived.message).1 := Keeps.alloc _ _ _
  have stored := read?_alloc memory derived.next
  have unused := read?_alloc_new (memory.alloc derived.next).1 derived.message
  refine ⟨second _ _ trivial stored, read?_alloc _ _, ?_, read?_alloc_new _ derived.next, ?_,
    first.trans second⟩
  · intro same
    simp only at same
    rw [same, unused] at stored
    cases stored
  · cases old : memory.read? ((memory.alloc derived.next).1.alloc derived.message).2 with
    | none => rfl
    | some cell =>
        rw [first _ _ trivial old] at unused
        cases unused

end Arrays

section Cache
variable {memory after : Buffers Bytes} {mine kept : Nat → Prop} {refs : InsertionMap Nat Nat}
  {keys : InsertionMap Nat Bytes}

/-- The cache of references shows the cache of keys. No array is entered twice, and none is
one of the `kept` ones. -/
structure Shows (memory : Buffers Bytes) (kept : Nat → Prop) (refs : InsertionMap Nat Nat)
    (keys : InsertionMap Nat Bytes) : Prop where
  same : refs.keys = keys.keys
  reads : ∀ counter ref, refs.get? counter = some ref →
    ∃ key, keys.get? counter = some key ∧ Holds memory ref key
  apart : ∀ counter other ref, refs.get? counter = some ref → refs.get? other = some ref →
    counter = other
  unshared : ∀ counter ref, refs.get? counter = some ref → ¬ kept ref

def Cached (refs : InsertionMap Nat Nat) (ref : Nat) : Prop :=
  ∃ counter, refs.get? counter = some ref

theorem shows_empty (memory : Buffers Bytes) (kept : Nat → Prop) :
    Shows memory kept .empty .empty where
  same := rfl
  reads := by intro counter ref found; cases found
  apart := by intro counter other ref found; cases found
  unshared := by intro counter ref found; cases found

theorem Shows.keeps (shown : Shows memory kept refs keys) (keeps : Keeps mine memory after)
    (owned : ∀ ref, Cached refs ref → mine ref) : Shows after kept refs keys where
  same := shown.same
  reads := by
    intro counter ref found
    obtain ⟨key, stored, holds⟩ := shown.reads counter ref found
    exact ⟨key, stored, keeps ref key (owned ref ⟨counter, found⟩) holds⟩
  apart := shown.apart
  unshared := shown.unshared

theorem Shows.mono {fewer : Nat → Prop} (shown : Shows memory kept refs keys)
    (within : ∀ ref, Cached refs ref → fewer ref → kept ref) : Shows memory fewer refs keys where
  same := shown.same
  reads := shown.reads
  apart := shown.apart
  unshared := fun counter ref found held =>
    shown.unshared counter ref found (within ref ⟨counter, found⟩ held)

theorem Shows.get?_none (shown : Shows memory kept refs keys) {counter : Nat}
    (missing : refs.get? counter = none) : keys.get? counter = none := by
  rw [InsertionMap.get?_eq_none_iff] at missing ⊢
  rwa [← shown.same]

/-- A reference that is not allocated is not in the cache. -/
theorem Shows.not_cached (shown : Shows memory kept refs keys) {ref : Nat}
    (unused : memory.read? ref = none) : ¬ Cached refs ref := by
  rintro ⟨counter, found⟩
  obtain ⟨key, _, holds⟩ := shown.reads counter ref found
  rw [Holds, unused] at holds
  cases holds

theorem Shows.delete (shown : Shows memory kept refs keys) (counter : Nat) :
    Shows memory kept (refs.delete counter) (keys.delete counter) where
  same := by rw [InsertionMap.keys_delete, InsertionMap.keys_delete, shown.same]
  reads := by
    intro other ref found
    rw [InsertionMap.get?_delete] at found ⊢
    split at found
    · cases found
    · rename_i different
      simpa only [different, ↓reduceIte] using shown.reads other ref found
  apart := by
    intro one other ref found again
    rw [InsertionMap.get?_delete] at found again
    split at found
    · cases found
    split at again
    · cases again
    exact shown.apart one other ref found again
  unshared := by
    intro other ref found
    rw [InsertionMap.get?_delete] at found
    split at found
    · cases found
    · exact shown.unshared other ref found

theorem Shows.set (shown : Shows memory kept refs keys) (counter : Nat) {ref : Nat} {key : Bytes}
    (holds : Holds memory ref key) (unheld : ¬ kept ref) (unused : ¬ Cached refs ref) :
    Shows memory kept (refs.set counter ref) (keys.set counter key) where
  same := by rw [InsertionMap.keys_set, InsertionMap.keys_set, shown.same]
  reads := by
    intro other found stored
    rw [InsertionMap.get?_set] at stored ⊢
    split at stored
    · rename_i same
      cases stored
      exact ⟨key, by rw [if_pos same], holds⟩
    · rename_i different
      rw [if_neg different]
      exact shown.reads other found stored
  apart := by
    intro one other found first second
    rw [InsertionMap.get?_set] at first second
    split at first <;> split at second
    · rename_i left right
      rw [left, right]
    · cases first
      exact absurd ⟨other, second⟩ unused
    · cases second
      exact absurd ⟨one, first⟩ unused
    · exact shown.apart one other found first second
  unshared := by
    intro other found stored
    rw [InsertionMap.get?_set] at stored
    split at stored
    · cases stored
      exact unheld
    · exact shown.unshared other found stored

theorem zeroizeEvicted_keeps (limit : Nat) (entries : List (Nat × Nat)) (memory : Buffers Bytes)
    (unheld : ∀ entry ∈ entries.take (entries.length - limit), ¬ mine entry.2) :
    Keeps mine memory (zeroizeEvicted limit entries memory) := by
  induction entries generalizing memory with
  | nil => exact Keeps.refl mine memory
  | cons entry rest ih =>
      simp only [zeroizeEvicted]
      split
      · rename_i excess
        have front : (entry :: rest).take ((entry :: rest).length - limit) =
            entry :: rest.take (rest.length - limit) := by
          rw [List.length_cons, Nat.succ_sub (Nat.le_of_lt_succ excess), List.take_succ_cons]
        rw [front] at unheld
        have first : Keeps mine memory (zeroize memory (some entry.2)) :=
          Keeps.modify memory _ (unheld entry List.mem_cons_self)
        exact first.trans
          (ih _ fun other member => unheld other (List.mem_cons_of_mem entry member))
      · exact Keeps.refl mine memory

theorem Shows.evict (shown : Shows memory kept refs keys) (limit : Nat) :
    Shows (zeroizeEvicted limit refs.entries memory) kept (refs.evict limit) (keys.evict limit) ∧
      Keeps kept memory (zeroizeEvicted limit refs.entries memory) := by
  have same : (refs.evict limit).keys = (keys.evict limit).keys := by
    rw [InsertionMap.keys_evict, InsertionMap.keys_evict, shown.same, ← InsertionMap.length_keys,
      ← InsertionMap.length_keys, shown.same]
  have stays : ∀ {counter ref}, (refs.evict limit).get? counter = some ref →
      counter ∈ (refs.evict limit).keys ∧ refs.get? counter = some ref := by
    intro counter ref found
    have present := InsertionMap.mem_keys_of_get? found
    rw [InsertionMap.get?_evict, if_pos present] at found
    exact ⟨present, found⟩
  -- What the loop overwrites is neither kept nor the array of an entry that stays.
  have spent : ∀ entry ∈ refs.entries.take (refs.entries.length - limit),
      ¬ (kept entry.2 ∨ Cached (refs.evict limit) entry.2) := by
    intro entry member held
    have stored : refs.get? entry.1 = some entry.2 :=
      (InsertionMap.get?_eq_some_iff _ _ _).mpr (List.mem_of_mem_take member)
    rcases held with held | ⟨counter, found⟩
    · exact shown.unshared entry.1 entry.2 stored held
    · obtain ⟨present, old⟩ := stays found
      rw [← shown.apart entry.1 counter entry.2 stored old, InsertionMap.keys_evict] at present
      have front : entry.1 ∈ refs.keys.take (refs.size - limit) := by
        rw [InsertionMap.keys, ← List.map_take]
        exact List.mem_map_of_mem member
      exact List.disjoint_take_drop refs.keys_nodup (Nat.le_refl _) front present
  have keeps : Keeps (fun ref => kept ref ∨ Cached (refs.evict limit) ref) memory
      (zeroizeEvicted limit refs.entries memory) :=
    zeroizeEvicted_keeps limit refs.entries memory spent
  have evicted : Shows memory kept (refs.evict limit) (keys.evict limit) :=
    { same := same
      reads := by
        intro counter ref found
        obtain ⟨present, old⟩ := stays found
        obtain ⟨key, stored, holds⟩ := shown.reads counter ref old
        rw [same] at present
        exact ⟨key, by rw [InsertionMap.get?_evict, if_pos present, stored], holds⟩
      apart := fun one other ref found again =>
        shown.apart one other ref (stays found).2 (stays again).2
      unshared := fun counter ref found => shown.unshared counter ref (stays found).2 }
  exact ⟨evicted.keeps keeps fun ref cached => Or.inr cached, keeps.mono fun ref held => Or.inl held⟩

theorem cacheSkipped_shows (shown : Shows memory kept refs keys) (limit counter : Nat) {ref : Nat}
    {key : Bytes} (holds : Holds memory ref key) (unheld : ¬ kept ref) (unused : ¬ Cached refs ref) :
    Shows (cacheSkipped limit ⟨refs, memory⟩ counter ref).memory kept
        (cacheSkipped limit ⟨refs, memory⟩ counter ref).skippedKeys
        (CryptoWorker.cacheSkipped limit keys counter key) ∧
      Keeps kept memory (cacheSkipped limit ⟨refs, memory⟩ counter ref).memory := by
  have replaced : Keeps (fun array => kept array ∨ Cached (refs.set counter ref) array) memory
      (zeroize memory (refs.get? counter)) := by
    refine zeroize_keeps memory ?_
    rintro old stored (held | ⟨other, found⟩)
    · exact shown.unshared counter old stored held
    · rw [InsertionMap.get?_set] at found
      split at found
      · cases found
        exact unused ⟨counter, stored⟩
      · rename_i different
        exact different (shown.apart other counter old found stored)
  have grown := (shown.set counter holds unheld unused).keeps replaced fun _ cached => Or.inr cached
  obtain ⟨evicted, keeps⟩ := grown.evict limit
  exact ⟨evicted, (replaced.mono fun _ held => Or.inl held).trans keeps⟩

/-- The cursor of the skip loop: the chain key that the loop began with, or an array of its own. -/
structure Cursor (memory : Buffers Bytes) (kept : Nat → Prop) (refs : InsertionMap Nat Nat)
    (receiveChainKey ref : Nat) (bytes : Bytes) : Prop where
  holds : Holds memory ref bytes
  own : ref = receiveChainKey ∨ ¬ kept ref
  uncached : ¬ Cached refs ref

/-- What the skip loop keeps to: its result shows that of the value model. -/
structure Skipped (kept : Nat → Prop) (receiveChainKey : Nat) (before : Buffers Bytes)
    (result : Nat × CacheBuffers) (value : Bytes × InsertionMap Nat Bytes) : Prop where
  shown : Shows result.2.memory kept result.2.skippedKeys value.2
  cursor : Cursor result.2.memory kept result.2.skippedKeys receiveChainKey result.1 value.1
  keeps : Keeps kept before result.2.memory

def Readable (kept : Nat → Prop) (memory : Buffers Bytes) : Prop :=
  ∀ ref, kept ref → memory.read? ref ≠ none

theorem Readable.keeps (readable : Readable kept memory) (keeps : Keeps kept memory after) :
    Readable kept after := by
  intro ref held
  obtain ⟨cell, found⟩ := Option.ne_none_iff_exists'.mp (readable ref held)
  rw [keeps ref cell held found]
  exact Option.some_ne_none cell

theorem skipTo_skipped (web : WebCrypto) (limit receiveChainKey count counter : Nat) {cursor : Nat}
    {bytes : Bytes} (shown : Shows memory kept refs keys)
    (stands : Cursor memory kept refs receiveChainKey cursor bytes)
    (readable : Readable kept memory) :
    Skipped kept receiveChainKey memory
      (skipTo web limit receiveChainKey count counter cursor ⟨refs, memory⟩)
      (CryptoWorker.skipTo web limit count counter bytes keys) := by
  induction count generalizing memory refs keys counter cursor bytes with
  | zero => exact ⟨shown, stands, Keeps.refl kept memory⟩
  | succ count ih =>
      simp only [skipTo, CryptoWorker.skipTo]
      have derived := deriveStep_derived web stands.holds
      set step := deriveStep web memory cursor
      set spent := if cursor ≠ receiveChainKey then zeroize step.memory (some cursor)
        else step.memory with spending
      have unkeptNext : ¬ kept step.next := fun held => readable _ held derived.newNext
      have unkeptMessage : ¬ kept step.message := fun held => readable _ held derived.newMessage
      -- The cursor is overwritten unless the state still holds it.
      have keeps : Keeps (fun ref => kept ref ∨ ref ≠ cursor) step.memory spent := by
        rw [spending]
        split
        · rename_i moved
          refine zeroize_keeps _ ?_
          rintro ref same held
          cases same
          rcases held with held | different
          · exact (stands.own.resolve_left moved) held
          · exact different rfl
        · exact Keeps.refl _ _
      have other : ∀ {ref}, memory.read? ref = none → ref ≠ cursor := by
        rintro ref unused rfl
        have holds : memory.read? ref = some bytes := stands.holds
        rw [unused] at holds
        cases holds
      have survives : Keeps (fun ref => kept ref ∨ Cached refs ref) memory spent := by
        refine (derived.keeps.mono fun _ _ => trivial).trans (keeps.mono ?_)
        rintro ref (held | cached)
        · exact Or.inl held
        · refine Or.inr ?_
          rintro rfl
          exact stands.uncached cached
      have before : Shows spent (fun ref => kept ref ∨ ref = step.next) refs keys := by
        have shows := shown.keeps survives fun _ cached => Or.inr cached
        refine ⟨shows.same, shows.reads, shows.apart, ?_⟩
        rintro position ref found (held | rfl)
        · exact shown.unshared position ref found held
        · exact shown.not_cached derived.newNext ⟨position, found⟩
      have held : ¬ (kept step.message ∨ step.message = step.next) := by
        rintro (held | same)
        · exact unkeptMessage held
        · exact derived.apart same.symm
      obtain ⟨cached, holding⟩ := cacheSkipped_shows before limit counter
        (keeps _ _ (Or.inr (other derived.newMessage)) derived.message) held
        (shown.not_cached derived.newMessage)
      have moved : Keeps kept memory
          (cacheSkipped limit ⟨refs, spent⟩ counter step.message).memory :=
        (survives.mono fun _ held => Or.inl held).trans (holding.mono fun _ held => Or.inl held)
      have stands' : Cursor (cacheSkipped limit ⟨refs, spent⟩ counter step.message).memory kept
          (cacheSkipped limit ⟨refs, spent⟩ counter step.message).skippedKeys receiveChainKey
          step.next (CryptoWorker.deriveStep web bytes).next := by
        refine ⟨holding _ _ (Or.inr rfl) (keeps _ _ (Or.inr (other derived.newNext)) derived.next),
          Or.inr unkeptNext, ?_⟩
        rintro ⟨position, found⟩
        exact cached.unshared position step.next found (Or.inr rfl)
      have rest := ih (counter + 1) (cached.mono fun _ _ held => Or.inl held) stands'
        (readable.keeps moved)
      exact ⟨rest.shown, rest.cursor, moved.trans rest.keeps⟩

end Cache

section State
variable {web : WebCrypto} {buffers : WorkerBuffers} {worker : Worker}

/-- The arrays that the state holds outside its cache. -/
def Kept (buffers : WorkerBuffers) (ref : Nat) : Prop :=
  buffers.identityPublicRaw = some ref ∨ buffers.sendChainKey = some ref ∨
    buffers.receiveChainKey = some ref

def Owned (buffers : WorkerBuffers) (ref : Nat) : Prop :=
  Kept buffers ref ∨ Cached buffers.skippedKeys ref

/-- The state by reference shows the state by value, and no two of its references share an
array. -/
structure Mirrors (web : WebCrypto) (buffers : WorkerBuffers) (worker : Worker) : Prop where
  config : buffers.config = worker.config
  identity : buffers.identityKeyPair = worker.identity
  outbound : buffers.outboundCounter = worker.outboundCounter
  inbound : buffers.highestInboundCounter = worker.highestInboundCounter
  established : buffers.sessionEstablished = worker.sessionEstablished
  publicRaw : Option.Rel (Holds buffers.memory) buffers.identityPublicRaw
    (worker.identity.map web.publicKey)
  send : Option.Rel (Holds buffers.memory) buffers.sendChainKey worker.sendChainKey
  receive : Option.Rel (Holds buffers.memory) buffers.receiveChainKey worker.receiveChainKey
  skipped : Shows buffers.memory buffers.Kept buffers.skippedKeys worker.skippedKeys
  publicApart : ∀ ref, buffers.identityPublicRaw = some ref →
    buffers.sendChainKey ≠ some ref ∧ buffers.receiveChainKey ≠ some ref
  chainsApart : ∀ ref, buffers.sendChainKey = some ref → buffers.receiveChainKey ≠ some ref

theorem mirrors_initial (web : WebCrypto) : Mirrors web initial CryptoWorker.initial where
  config := rfl
  identity := rfl
  outbound := rfl
  inbound := rfl
  established := rfl
  publicRaw := .none
  send := .none
  receive := .none
  skipped := shows_empty _ _
  publicApart := by intro ref held; cases held
  chainsApart := by intro ref held; cases held

theorem rel_cases {Left Right : Type} {related : Left → Right → Prop} {left : Option Left}
    {right : Option Right} (rel : Option.Rel related left right) :
    (left = none ∧ right = none) ∨
      ∃ one other, left = some one ∧ right = some other ∧ related one other := by
  cases rel with
  | none => exact Or.inl ⟨rfl, rfl⟩
  | some same => exact Or.inr ⟨_, _, rfl, rfl, same⟩

theorem rel_keeps {memory after : Buffers Bytes} {mine : Nat → Prop} {ref : Option Nat}
    {value : Option Bytes} (rel : Option.Rel (Holds memory) ref value)
    (keeps : Keeps mine memory after) (owned : ∀ held, ref = some held → mine held) :
    Option.Rel (Holds after) ref value := by
  cases rel with
  | none => exact .none
  | some holds => exact .some (keeps _ _ (owned _ rfl) holds)

theorem readable_of_rel {memory : Buffers Bytes} {ref : Option Nat} {value : Option Bytes}
    (rel : Option.Rel (Holds memory) ref value) {held : Nat} (found : ref = some held) :
    memory.read? held ≠ none := by
  cases rel with
  | none => cases found
  | some holds =>
      cases found
      simp only [Holds] at holds
      simp [holds]

theorem Mirrors.readable (mirrors : Mirrors web buffers worker) : Readable buffers.Kept buffers.memory := by
  rintro ref (held | held | held)
  · exact readable_of_rel mirrors.publicRaw held
  · exact readable_of_rel mirrors.send held
  · exact readable_of_rel mirrors.receive held

/-- Memory may change wherever the state holds nothing. -/
theorem Mirrors.keeps (mirrors : Mirrors web buffers worker) {memory : Buffers Bytes}
    (keeps : Keeps buffers.Owned buffers.memory memory) :
    Mirrors web { buffers with memory := memory } worker :=
  { mirrors with
    publicRaw := rel_keeps mirrors.publicRaw keeps fun _ held => Or.inl (Or.inl held)
    send := rel_keeps mirrors.send keeps fun _ held => Or.inl (Or.inr (Or.inl held))
    receive := rel_keeps mirrors.receive keeps fun _ held => Or.inl (Or.inr (Or.inr held))
    skipped := mirrors.skipped.keeps keeps fun _ cached => Or.inr cached }

theorem Mirrors.not_owned (mirrors : Mirrors web buffers worker) {ref : Nat}
    (unused : buffers.memory.read? ref = none) : ¬ buffers.Owned ref := by
  rintro (held | cached)
  · exact mirrors.readable ref held unused
  · exact mirrors.skipped.not_cached unused cached

theorem resetSession_mirrors (mirrors : Mirrors web buffers worker) :
    Mirrors web buffers.resetSession (CryptoWorker.resetSession worker) := by
  have keeps : Keeps (fun ref => buffers.identityPublicRaw = some ref) buffers.memory
      buffers.resetSession.memory := by
    have sent : Keeps (fun ref => buffers.identityPublicRaw = some ref) buffers.memory
        (zeroize buffers.memory buffers.sendChainKey) :=
      zeroize_keeps _ fun ref spent held => (mirrors.publicApart ref held).1 spent
    have received : Keeps (fun ref => buffers.identityPublicRaw = some ref)
        (zeroize buffers.memory buffers.sendChainKey)
        (zeroize (zeroize buffers.memory buffers.sendChainKey) buffers.receiveChainKey) :=
      zeroize_keeps _ fun ref spent held => (mirrors.publicApart ref held).2 spent
    refine (sent.trans received).trans (zeroizeAll_keeps _ _ ?_)
    intro ref member held
    obtain ⟨entry, stored, rfl⟩ := List.mem_map.mp member
    exact mirrors.skipped.unshared entry.1 entry.2
      ((InsertionMap.get?_eq_some_iff _ _ _).mpr stored) (Or.inl held)
  exact
    { config := mirrors.config
      identity := mirrors.identity
      outbound := rfl
      inbound := rfl
      established := rfl
      publicRaw := rel_keeps mirrors.publicRaw keeps fun _ held => held
      send := .none
      receive := .none
      skipped := shows_empty _ _
      publicApart := fun _ _ => ⟨by simp [resetSession], by simp [resetSession]⟩
      chainsApart := by intro ref held; cases held }

theorem resetAll_mirrors (mirrors : Mirrors web buffers worker) :
    Mirrors web buffers.resetAll (CryptoWorker.resetAll worker) where
  config := mirrors.config
  identity := rfl
  outbound := rfl
  inbound := rfl
  established := rfl
  publicRaw := .none
  send := .none
  receive := .none
  skipped := shows_empty _ _
  publicApart := by intro ref held; cases held
  chainsApart := by intro ref held; cases held

theorem generateIdentity_mirrors (mirrors : Mirrors web buffers worker) (secret : Bytes) :
    Mirrors web (generateIdentity web secret buffers).1
        (CryptoWorker.generateIdentity web secret worker).1 ∧
      (generateIdentity web secret buffers).2 =
        (CryptoWorker.generateIdentity web secret worker).2 := by
  have stored : Holds (buffers.resetAll.memory.alloc (web.publicKey secret)).1
      (buffers.resetAll.memory.alloc (web.publicKey secret)).2 (web.publicKey secret) :=
    read?_alloc _ _
  refine ⟨?_, stored.read⟩
  exact
    { resetAll_mirrors mirrors with
      identity := rfl
      publicRaw := .some stored
      send := .none
      receive := .none
      skipped := shows_empty _ _
      publicApart := fun _ _ => ⟨nofun, nofun⟩
      chainsApart := by intro ref held; cases held }

theorem configure_mirrors (mirrors : Mirrors web buffers worker) (payload : ConfigurePayload) :
    Mirrors web (buffers.configure payload) (CryptoWorker.configure worker payload) := by
  have same : (CryptoWorker.configure { CryptoWorker.initial with config := buffers.config }
      payload).config = (CryptoWorker.configure worker payload).config := by
    simp only [CryptoWorker.configure, CryptoWorker.resetSession, mirrors.config]
  have closed := resetSession_mirrors mirrors
  exact { closed with config := same }

theorem establishSession_mirrors (mirrors : Mirrors web buffers worker) (peerRaw : Bytes)
    (profileHashValue : String) :
    Mirrors web (establishSession web buffers peerRaw profileHashValue).1
        (CryptoWorker.establishSession web worker peerRaw profileHashValue).1 ∧
      (establishSession web buffers peerRaw profileHashValue).2 =
        (CryptoWorker.establishSession web worker peerRaw profileHashValue).2 := by
  have publicRaw := mirrors.publicRaw
  simp only [establishSession, CryptoWorker.establishSession, mirrors.identity]
  cases identity : worker.identity with
  | none => exact ⟨mirrors, rfl⟩
  | some secret =>
      rw [identity] at publicRaw
      rcases rel_cases publicRaw with ⟨_, missing⟩ | ⟨raw, _, found, same, holds⟩
      · cases missing
      cases same
      simp only [found, holds.read]
      split
      · exact ⟨mirrors, rfl⟩
      split
      · exact ⟨mirrors, rfl⟩
      have closed := resetSession_mirrors mirrors
      cases web.agree secret peerRaw with
      | none => exact ⟨closed, rfl⟩
      | some shared =>
          refine ⟨?_, rfl⟩
          set opened := buffers.resetSession with resetting
          set rootKey := web.hkdf shared
            (web.sha256 (utf8Encode ("onlytwo-v2:" ++ profileHashValue))) rootInfo aesKeyBytes
          set sendKey := web.hkdf rootKey zero32
            (if compareBytes (web.publicKey secret) peerRaw < 0 then chainSendInfo
              else chainRecvInfo) aesKeyBytes
          set receiveKey := web.hkdf rootKey zero32
            (if compareBytes (web.publicKey secret) peerRaw < 0 then chainRecvInfo
              else chainSendInfo) aesKeyBytes
          have first : Keeps (fun _ => True) opened.memory (opened.memory.alloc sendKey).1 :=
            Keeps.alloc _ _ _
          have second : Keeps (fun _ => True) (opened.memory.alloc sendKey).1
              ((opened.memory.alloc sendKey).1.alloc receiveKey).1 := Keeps.alloc _ _ _
          have sent := read?_alloc opened.memory sendKey
          have newSend := read?_alloc_new opened.memory sendKey
          have newReceive := read?_alloc_new (opened.memory.alloc sendKey).1 receiveKey
          have held : ∀ ref, opened.identityPublicRaw = some ref →
              opened.memory.read? ref ≠ none := fun ref => readable_of_rel closed.publicRaw
          exact
            { closed with
              established := rfl
              publicRaw := rel_keeps closed.publicRaw (first.trans second) fun _ _ => trivial
              send := .some (second _ _ trivial sent)
              receive := .some (read?_alloc _ _)
              skipped := shows_empty _ _
              publicApart := by
                intro ref stored
                constructor
                · rintro same
                  cases same
                  exact held _ stored newSend
                · rintro same
                  cases same
                  obtain ⟨cell, reads⟩ := Option.ne_none_iff_exists'.mp (held _ stored)
                  rw [first _ _ trivial reads] at newReceive
                  cases newReceive
              chainsApart := by
                intro ref stored same
                cases stored
                have equal := Option.some.inj same
                rw [equal, sent] at newReceive
                cases newReceive }

/-- The send chain moves on to a new array, and the array it leaves may be overwritten. -/
theorem Mirrors.sent (mirrors : Mirrors web buffers worker) {chainKey next : Nat} {bytes : Bytes}
    {memory : Buffers Bytes} (stood : buffers.sendChainKey = some chainKey)
    (keeps : Keeps (fun ref => buffers.Owned ref ∧ ref ≠ chainKey) buffers.memory memory)
    (unused : buffers.memory.read? next = none) (holds : Holds memory next bytes) :
    Mirrors web
      { buffers with
        sendChainKey := some next
        outboundCounter := buffers.outboundCounter + 1
        memory := memory }
      { worker with
        sendChainKey := some bytes
        outboundCounter := worker.outboundCounter + 1 } := by
  have unowned := mirrors.not_owned unused
  refine
    { mirrors with
      outbound := congrArg (· + 1) mirrors.outbound
      publicRaw := rel_keeps mirrors.publicRaw keeps ?_
      send := .some holds
      receive := rel_keeps mirrors.receive keeps ?_
      skipped := (mirrors.skipped.keeps keeps ?_).mono ?_
      publicApart := ?_
      chainsApart := ?_ }
  · rintro ref held
    refine ⟨Or.inl (Or.inl held), ?_⟩
    rintro rfl
    exact (mirrors.publicApart ref held).1 stood
  · rintro ref held
    refine ⟨Or.inl (Or.inr (Or.inr held)), ?_⟩
    rintro rfl
    exact mirrors.chainsApart ref stood held
  · rintro ref ⟨counter, found⟩
    refine ⟨Or.inr ⟨counter, found⟩, ?_⟩
    rintro rfl
    exact mirrors.skipped.unshared counter ref found (Or.inr (Or.inl stood))
  · rintro ref cached (held | held | held)
    · exact Or.inl held
    · cases held
      exact absurd (Or.inr cached) unowned
    · exact Or.inr (Or.inr held)
  · rintro ref held
    refine ⟨?_, (mirrors.publicApart ref held).2⟩
    rintro same
    cases same
    exact unowned (Or.inl (Or.inl held))
  · rintro ref held same
    cases held
    exact unowned (Or.inl (Or.inr (Or.inr same)))

theorem Mirrors.received (mirrors : Mirrors web buffers worker) {chainKey next : Nat}
    {bytes : Bytes} {memory : Buffers Bytes} (stood : buffers.receiveChainKey = some chainKey)
    (keeps : Keeps (fun ref => buffers.Owned ref ∧ ref ≠ chainKey) buffers.memory memory)
    (unused : buffers.memory.read? next = none) (holds : Holds memory next bytes) (counter : Nat) :
    Mirrors web
      { buffers with
        receiveChainKey := some next
        highestInboundCounter := counter
        memory := memory }
      { worker with
        receiveChainKey := some bytes
        highestInboundCounter := counter } := by
  have unowned := mirrors.not_owned unused
  refine
    { mirrors with
      inbound := rfl
      publicRaw := rel_keeps mirrors.publicRaw keeps ?_
      send := rel_keeps mirrors.send keeps ?_
      receive := .some holds
      skipped := (mirrors.skipped.keeps keeps ?_).mono ?_
      publicApart := ?_
      chainsApart := ?_ }
  · rintro ref held
    refine ⟨Or.inl (Or.inl held), ?_⟩
    rintro rfl
    exact (mirrors.publicApart ref held).2 stood
  · rintro ref held
    refine ⟨Or.inl (Or.inr (Or.inl held)), ?_⟩
    rintro rfl
    exact mirrors.chainsApart ref held stood
  · rintro ref ⟨position, found⟩
    refine ⟨Or.inr ⟨position, found⟩, ?_⟩
    rintro rfl
    exact mirrors.skipped.unshared position ref found (Or.inr (Or.inr stood))
  · rintro ref cached (held | held | held)
    · exact Or.inl held
    · exact Or.inr (Or.inl held)
    · cases held
      exact absurd (Or.inr cached) unowned
  · rintro ref held
    refine ⟨(mirrors.publicApart ref held).1, ?_⟩
    rintro same
    cases same
    exact unowned (Or.inl (Or.inl held))
  · rintro ref held same
    cases same
    exact unowned (Or.inl (Or.inr (Or.inl held)))

theorem encryptBinary_mirrors (mirrors : Mirrors web buffers worker) (entropy : Entropy)
    (payload : EncryptRequest) :
    Mirrors web (encryptBinary web entropy buffers payload).1
        (CryptoWorker.encryptBinary web entropy worker payload).1 ∧
      (encryptBinary web entropy buffers payload).2 =
        (CryptoWorker.encryptBinary web entropy worker payload).2 := by
  simp only [encryptBinary, CryptoWorker.encryptBinary, mirrors.established]
  cases established : worker.sessionEstablished with
  | false => exact ⟨mirrors, rfl⟩
  | true =>
      rcases rel_cases mirrors.send with ⟨closed, missing⟩ | ⟨chainKey, bytes, stood, same, holds⟩
      · rw [closed, missing]
        exact ⟨mirrors, rfl⟩
      rw [stood, same]
      cases toBytes payload.data "plaintext" with
      | error reason => exact ⟨mirrors, rfl⟩
      | ok data =>
          have derived := deriveStep_derived web holds
          simp only
          set step := deriveStep web buffers.memory chainKey
          have other : ∀ {ref}, buffers.memory.read? ref = none → ref ≠ chainKey := by
            rintro ref unused rfl
            rw [holds] at unused
            cases unused
          have spent : Keeps (fun ref => ref ≠ chainKey) step.memory
              (zeroize step.memory (some chainKey)) :=
            Keeps.modify _ _ fun different => different rfl
          have next := spent _ _ (other derived.newNext) derived.next
          have message : Holds _ _ _ := spent _ _ (other derived.newMessage) derived.message
          have moved := mirrors.sent stood
            ((derived.keeps.mono fun _ _ => trivial).trans (spent.mono fun _ held => held.2))
            derived.newNext next
          have unowned := mirrors.not_owned derived.newMessage
          rw [mirrors.outbound, mirrors.established, established] at moved
          rw [message.read, mirrors.config, mirrors.outbound]
          rw [mirrors.config] at moved
          cases sealMessage web entropy worker.config (worker.outboundCounter + 1)
              (CryptoWorker.deriveStep web bytes).message payload.aadContext data with
          | error reason => exact ⟨moved, rfl⟩
          | ok encrypted =>
              refine ⟨moved.keeps (zeroize_keeps _ ?_), rfl⟩
              rintro ref spent (held | cached)
              · cases spent
                rcases held with held | held | held
                · exact unowned (Or.inl (Or.inl held))
                · exact derived.apart (Option.some.inj held)
                · exact unowned (Or.inl (Or.inr (Or.inr held)))
              · cases spent
                exact unowned (Or.inr cached)

theorem decryptCached_mirrors (mirrors : Mirrors web buffers worker) (frame : Frame) {cached : Nat}
    {key : Bytes} (found : buffers.skippedKeys.get? frame.counter = some cached)
    (holds : Holds buffers.memory cached key) :
    Mirrors web (decryptCached web buffers frame cached).1
        (CryptoWorker.decryptCached web worker frame key).1 ∧
      (decryptCached web buffers frame cached).2 =
        (CryptoWorker.decryptCached web worker frame key).2 := by
  simp only [decryptCached, CryptoWorker.decryptCached, holds.read]
  have cloned : Holds (buffers.memory.alloc key).1 (buffers.memory.alloc key).2 key :=
    read?_alloc _ _
  have unowned := mirrors.not_owned (read?_alloc_new buffers.memory key)
  have kept : Keeps buffers.Owned buffers.memory (buffers.memory.alloc key).1 :=
    Keeps.alloc _ _ _
  rw [cloned.read]
  cases authenticate web frame key with
  | error reason =>
      exact ⟨mirrors.keeps (kept.trans (zeroizeTried_keeps frame _ key unowned)), rfl⟩
  | ok padded =>
      refine ⟨?_, congrArg (fun config => parsePlaintext config padded) mirrors.config⟩
      -- The array of the used entry goes, and the entry with it.
      have taken : Mirrors web
          { buffers with skippedKeys := buffers.skippedKeys.delete frame.counter }
          { worker with skippedKeys := worker.skippedKeys.delete frame.counter } :=
        { mirrors with skipped := mirrors.skipped.delete frame.counter }
      have within : ∀ ref, Owned
          { buffers with skippedKeys := buffers.skippedKeys.delete frame.counter } ref →
            buffers.Owned ref ∧ ref ≠ cached := by
        rintro ref (held | ⟨counter, stored⟩)
        · refine ⟨Or.inl held, ?_⟩
          rintro rfl
          exact mirrors.skipped.unshared frame.counter ref found held
        · simp only [InsertionMap.get?_delete] at stored
          split at stored
          · cases stored
          · rename_i different
            refine ⟨Or.inr ⟨counter, stored⟩, ?_⟩
            rintro rfl
            exact different (mirrors.skipped.apart counter frame.counter ref stored found)
      have spent : Keeps (fun ref => buffers.Owned ref ∧ ref ≠ cached)
          (buffers.memory.alloc key).1 (zeroize (buffers.memory.alloc key).1 (some cached)) :=
        Keeps.modify _ _ fun held => held.2 rfl
      have tried : Keeps (fun ref => buffers.Owned ref ∧ ref ≠ cached)
          (zeroize (buffers.memory.alloc key).1 (some cached)) _ :=
        zeroizeTried_keeps frame _ key fun held => unowned held.1
      exact taken.keeps
        ((((kept.mono fun _ held => held.1).trans spent).trans tried).mono within)

theorem decryptAhead_mirrors (mirrors : Mirrors web buffers worker) (frame : Frame)
    {chainKey : Nat} {key : Bytes} (stood : buffers.receiveChainKey = some chainKey)
    (holds : Holds buffers.memory chainKey key) :
    Mirrors web (decryptAhead web buffers frame chainKey).1
        (CryptoWorker.decryptAhead web worker frame key).1 ∧
      (decryptAhead web buffers frame chainKey).2 =
        (CryptoWorker.decryptAhead web worker frame key).2 := by
  have held : buffers.Kept chainKey := Or.inr (Or.inr stood)
  -- The walk ends on the cursor's array, which no entry of the store holds.
  have walked := skipTo_skipped web worker.config.maxSkippedMessageKeys chainKey
    (frame.counter - worker.highestInboundCounter - 1) (worker.highestInboundCounter + 1)
    mirrors.skipped
    ⟨holds, Or.inl rfl, fun ⟨counter, found⟩ => mirrors.skipped.unshared counter chainKey found held⟩
    mirrors.readable
  simp only [decryptAhead, CryptoWorker.decryptAhead, mirrors.inbound, mirrors.config]
  set skipped := skipTo web worker.config.maxSkippedMessageKeys chainKey
    (frame.counter - worker.highestInboundCounter - 1) (worker.highestInboundCounter + 1) chainKey
    ⟨buffers.skippedKeys, buffers.memory⟩
  set reached := CryptoWorker.skipTo web worker.config.maxSkippedMessageKeys
    (frame.counter - worker.highestInboundCounter - 1) (worker.highestInboundCounter + 1) key
    worker.skippedKeys
  have derived := deriveStep_derived web walked.cursor.holds
  set step := deriveStep web skipped.2.memory skipped.1
  set spent := if skipped.1 ≠ chainKey then zeroize step.memory (some skipped.1)
    else step.memory with spending
  have tried : Mirrors web
      { buffers with skippedKeys := skipped.2.skippedKeys, memory := skipped.2.memory }
      { worker with skippedKeys := reached.2 } :=
    { mirrors with
      publicRaw := rel_keeps mirrors.publicRaw walked.keeps fun _ stored => Or.inl stored
      send := rel_keeps mirrors.send walked.keeps fun _ stored => Or.inr (Or.inl stored)
      receive := rel_keeps mirrors.receive walked.keeps fun _ stored => Or.inr (Or.inr stored)
      skipped := walked.shown }
  have unowned := tried.not_owned derived.newMessage
  have other : ∀ {ref}, skipped.2.memory.read? ref = none → ref ≠ skipped.1 := by
    rintro ref unused rfl
    rw [walked.cursor.holds] at unused
    cases unused
  -- The cursor is wiped unless it is the chain key, which the session still holds.
  have kept : Keeps (fun ref => Owned { buffers with
      skippedKeys := skipped.2.skippedKeys, memory := skipped.2.memory } ref ∨ ref ≠ skipped.1)
      step.memory spent := by
    rw [spending]
    split
    · rename_i moved
      refine zeroize_keeps _ ?_
      rintro ref same ((stored | cached) | different)
      · cases same
        exact walked.cursor.own.resolve_left moved stored
      · cases same
        exact walked.cursor.uncached cached
      · cases same
        exact different rfl
    · exact Keeps.refl _ _
  have used : Holds spent step.message (CryptoWorker.deriveStep web reached.1).message :=
    kept _ _ (Or.inr (other derived.newMessage)) derived.message
  have next : Holds spent step.next (CryptoWorker.deriveStep web reached.1).next :=
    kept _ _ (Or.inr (other derived.newNext)) derived.next
  have before := (derived.keeps.mono fun _ _ => trivial).trans (kept.mono fun _ => Or.inl)
  rw [used.read]
  cases authenticate web frame (CryptoWorker.deriveStep web reached.1).message with
  | error reason =>
      -- The frame does not authenticate: the skipped keys stay, and the chain key with them.
      have refused := tried.keeps (before.trans (zeroizeTried_keeps frame _
        (CryptoWorker.deriveStep web reached.1).message unowned))
      rw [mirrors.inbound, mirrors.config] at refused
      exact ⟨refused, rfl⟩
  | ok padded =>
      have spentKey : Keeps (fun ref => ref ≠ chainKey) spent (zeroize spent (some chainKey)) :=
        Keeps.modify _ _ fun different => different rfl
      have triedKey : Keeps (fun ref => ref ≠ step.message) (zeroize spent (some chainKey)) _ :=
        zeroizeTried_keeps frame _ (CryptoWorker.deriveStep web reached.1).message
          fun different => different rfl
      -- The next chain key is a new array, so wiping the old one leaves it whole.
      have newer : step.next ≠ chainKey := by
        rintro same
        exact tried.not_owned derived.newNext (Or.inl (Or.inr (Or.inr (same ▸ stood))))
      have moved := tried.received stood
        ((before.mono fun _ => And.left).trans
          ((spentKey.mono fun _ => And.right).trans (triedKey.mono ?_)))
        derived.newNext (triedKey _ _ derived.apart (spentKey _ _ newer next)) frame.counter
      · rw [mirrors.config] at moved
        exact ⟨moved, rfl⟩
      · rintro ref owned rfl
        exact unowned owned.1

theorem decryptBinary_mirrors (mirrors : Mirrors web buffers worker) (payload : DecryptRequest) :
    Mirrors web (decryptBinary web buffers payload).1
        (CryptoWorker.decryptBinary web worker payload).1 ∧
      (decryptBinary web buffers payload).2 =
        (CryptoWorker.decryptBinary web worker payload).2 := by
  simp only [decryptBinary, CryptoWorker.decryptBinary, mirrors.established, mirrors.inbound,
    mirrors.config]
  cases worker.sessionEstablished with
  | false => exact ⟨mirrors, rfl⟩
  | true =>
      rcases rel_cases mirrors.receive with
        ⟨closed, missing⟩ | ⟨chainKey, bytes, stood, same, holds⟩
      · rw [closed, missing]
        exact ⟨mirrors, rfl⟩
      rw [stood, same]
      cases readFrame payload with
      | error reason => exact ⟨mirrors, rfl⟩
      | ok frame =>
          simp only
          split
          · exact ⟨mirrors, rfl⟩
          cases found : buffers.skippedKeys.get? frame.counter with
          | some cached =>
              obtain ⟨key, stored, reads⟩ := mirrors.skipped.reads frame.counter cached found
              rw [stored]
              exact decryptCached_mirrors mirrors frame found reads
          | none =>
              rw [mirrors.skipped.get?_none found]
              simp only
              split
              · exact ⟨mirrors, rfl⟩
              · exact decryptAhead_mirrors mirrors frame stood holds

/-- Every request answers by reference as it does by value. -/
theorem handle_mirrors (mirrors : Mirrors web buffers worker) (entropy : Entropy)
    (request : Request) :
    Mirrors web (handle web entropy buffers request).1
        (CryptoWorker.handle web entropy worker request).1 ∧
      (handle web entropy buffers request).2 =
        (CryptoWorker.handle web entropy worker request).2 := by
  cases request with
  | configure payload => exact ⟨configure_mirrors mirrors payload, rfl⟩
  | generateIdentity =>
      obtain ⟨made, same⟩ := generateIdentity_mirrors mirrors entropy.secret
      exact ⟨made, congrArg (fun raw => Except.ok (Reply.publicKey raw)) same⟩
  | establishSession peerPublicKey profileHashValue =>
      simp only [handle, CryptoWorker.handle]
      cases toBytes peerPublicKey "peer public key" with
      | error reason => exact ⟨mirrors, rfl⟩
      | ok peerRaw =>
          obtain ⟨opened, same⟩ :=
            establishSession_mirrors mirrors peerRaw (profileHashValue.getD "")
          exact ⟨opened, congrArg (Except.map fun _ => Reply.done) same⟩
  | encrypt payload =>
      obtain ⟨moved, same⟩ := encryptBinary_mirrors mirrors entropy payload
      exact ⟨moved, congrArg (Except.map Reply.encrypted) same⟩
  | decrypt payload =>
      obtain ⟨moved, same⟩ := decryptBinary_mirrors mirrors payload
      exact ⟨moved, congrArg (Except.map Reply.plaintext) same⟩
  | reset => exact ⟨resetAll_mirrors mirrors, rfl⟩
  | unknown type => exact ⟨mirrors, rfl⟩

/-- Over a whole run the worker by reference answers as the worker by value. -/
theorem run_mirrors {allowed : WorkerBuffers → Request × Entropy → Prop} {history : List Answered}
    (run : Machine.Run (machine web) allowed initial buffers history) :
    ∃ worker, Machine.Run (CryptoWorker.machine web) Machine.Unrestricted
      CryptoWorker.initial worker history ∧ Mirrors web buffers worker := by
  induction run with
  | refl => exact ⟨_, .refl, mirrors_initial web⟩
  | next _ _ stepped ih =>
      rename_i event _ _
      obtain ⟨worker, run, mirrors⟩ := ih
      simp only [machine, Option.some.injEq, Prod.mk.injEq] at stepped
      obtain ⟨rfl, rfl⟩ := stepped
      obtain ⟨after, same⟩ := handle_mirrors mirrors event.2 event.1
      rw [same]
      exact ⟨_, run.next trivial rfl, after⟩

end State

section Claim
variable {web : WebCrypto} {buffers : WorkerBuffers} {history : List Answered}

/-- The key store, read from the arrays. -/
structure KeyArrays (web : WebCrypto) (sendRoot receiveRoot : Bytes) (buffers : WorkerBuffers) :
    Prop where
  send : ∃ ref, buffers.sendChainKey = some ref ∧
    Holds buffers.memory ref (chainAt web sendRoot buffers.outboundCounter)
  receive : ∃ ref, buffers.receiveChainKey = some ref ∧
    Holds buffers.memory ref (chainAt web receiveRoot buffers.highestInboundCounter)
  skipped : ∀ counter ref, buffers.skippedKeys.get? counter = some ref →
    0 < counter ∧ Holds buffers.memory ref (messageKeyAt web receiveRoot counter)
  bounded : buffers.skippedKeys.size ≤ buffers.config.maxSkippedMessageKeys
  window : ∀ counter ∈ buffers.skippedKeys.keys,
    counter ≤ buffers.highestInboundCounter + buffers.config.maxSkippedMessageKeys

theorem Mirrors.keyArrays {worker : Worker} {sendRoot receiveRoot : Bytes}
    (mirrors : Mirrors web buffers worker) (store : KeyStore web sendRoot receiveRoot worker) :
    KeyArrays web sendRoot receiveRoot buffers := by
  have send := mirrors.send
  have receive := mirrors.receive
  rw [store.send] at send
  rw [store.receive] at receive
  refine ⟨?_, ?_, ?_, ?_, ?_⟩
  · rcases rel_cases send with ⟨_, missing⟩ | ⟨ref, _, stood, same, holds⟩
    · cases missing
    · cases same
      rw [mirrors.outbound]
      exact ⟨ref, stood, holds⟩
  · rcases rel_cases receive with ⟨_, missing⟩ | ⟨ref, _, stood, same, holds⟩
    · cases missing
    · cases same
      rw [mirrors.inbound]
      exact ⟨ref, stood, holds⟩
  · intro counter ref found
    obtain ⟨key, stored, holds⟩ := mirrors.skipped.reads counter ref found
    obtain ⟨positive, rfl⟩ := store.genuine counter key stored
    exact ⟨positive, holds⟩
  · rw [← InsertionMap.length_keys, mirrors.skipped.same, InsertionMap.length_keys, mirrors.config]
    exact store.bounded
  · intro counter member
    rw [mirrors.skipped.same] at member
    rw [mirrors.inbound, mirrors.config]
    exact store.window counter member

/-- The requests that leave the session as it was opened: every `ENCRYPT` and `DECRYPT`, and an
`ESTABLISH_SESSION` that is refused before it resets anything. -/
def Stays (web : WebCrypto) (buffers : WorkerBuffers) (event : Request × Entropy) : Prop :=
  match event.1 with
  | .configure _ | .generateIdentity | .reset => False
  | .establishSession _ _ => (handle web event.2 buffers event.1).1 = buffers
  | .encrypt _ | .decrypt _ | .unknown _ => True

/-- The session of the state was opened, with these two chain keys, somewhere along the history. -/
def OpenedWith (web : WebCrypto) (buffers : WorkerBuffers) (history : List Answered)
    (sendRoot receiveRoot : Bytes) : Prop :=
  ∃ before past opened event later,
    Machine.Run (machine web) Machine.Unrestricted initial before past ∧
    (machine web).step before event = some (opened, [⟨event.1, .ok .done⟩]) ∧
    (∃ peerPublicKey profileHashValue, event.1 = .establishSession peerPublicKey profileHashValue) ∧
    opened.outboundCounter = 0 ∧ opened.highestInboundCounter = 0 ∧
    opened.sendChainKey.map (read opened.memory) = some sendRoot ∧
    opened.receiveChainKey.map (read opened.memory) = some receiveRoot ∧
    Machine.Run (machine web) (Stays web) opened buffers later ∧
    history = past ++ [⟨event.1, .ok .done⟩] ++ later

theorem OpenedWith.next {sendRoot receiveRoot : Bytes}
    (opened : OpenedWith web buffers history sendRoot receiveRoot) {event : Request × Entropy}
    (stays : Stays web buffers event) :
    OpenedWith web (handle web event.2 buffers event.1).1
      (history ++ [⟨event.1, (handle web event.2 buffers event.1).2⟩]) sendRoot receiveRoot := by
  obtain ⟨before, past, start, first, later, reached, stepped, request, sent, received, send,
    receive, run, rfl⟩ := opened
  exact ⟨before, past, start, first, _, reached, stepped, request, sent, received, send, receive,
    run.next stays rfl, by rw [List.append_assoc]⟩

theorem establishSession_outcomes (web : WebCrypto) (buffers : WorkerBuffers) (peerRaw : Bytes)
    (profileHashValue : String) :
    (establishSession web buffers peerRaw profileHashValue).1 = buffers ∨
      (establishSession web buffers peerRaw profileHashValue).1.sessionEstablished = false ∨
      (establishSession web buffers peerRaw profileHashValue).2 = .ok () := by
  unfold establishSession
  split
  · simp only
    split
    · exact Or.inl rfl
    split
    · exact Or.inl rfl
    split
    · exact Or.inr (Or.inl rfl)
    · exact Or.inr (Or.inr rfl)
  · exact Or.inl rfl

theorem Mirrors.openedAt {worker : Worker} {sendRoot receiveRoot : Bytes}
    (mirrors : Mirrors web buffers worker) (fresh : FreshSession worker sendRoot receiveRoot) :
    buffers.outboundCounter = 0 ∧ buffers.highestInboundCounter = 0 ∧
      buffers.sendChainKey.map (read buffers.memory) = some sendRoot ∧
      buffers.receiveChainKey.map (read buffers.memory) = some receiveRoot := by
  have arrays := mirrors.keyArrays (fresh.store)
  obtain ⟨sendRef, sent, sendHolds⟩ := arrays.send
  obtain ⟨receiveRef, received, receiveHolds⟩ := arrays.receive
  have outbound : buffers.outboundCounter = 0 := mirrors.outbound.trans fresh.outbound
  have inbound : buffers.highestInboundCounter = 0 := mirrors.inbound.trans fresh.inbound
  rw [outbound] at sendHolds
  rw [inbound] at receiveHolds
  refine ⟨outbound, inbound, ?_, ?_⟩
  · rw [sent, Option.map_some, sendHolds.read]
    rfl
  · rw [received, Option.map_some, receiveHolds.read]
    rfl

/-- What a request does to the session that the history opened: it keeps it, closes it or opens
the next one. -/
theorem handle_opened {worker : Worker} {past : List Answered} (event : Request × Entropy)
    (reached : Machine.Run (machine web) Machine.Unrestricted initial buffers past)
    (mirrors : Mirrors web buffers worker)
    (held : worker.sessionEstablished = true → ∃ sendRoot receiveRoot,
      OpenedWith web buffers past sendRoot receiveRoot ∧ KeyStore web sendRoot receiveRoot worker)
    (established : (CryptoWorker.handle web event.2 worker event.1).1.sessionEstablished = true) :
    ∃ sendRoot receiveRoot,
      OpenedWith web (handle web event.2 buffers event.1).1
        (past ++ [⟨event.1, (handle web event.2 buffers event.1).2⟩]) sendRoot receiveRoot ∧
      KeyStore web sendRoot receiveRoot (CryptoWorker.handle web event.2 worker event.1).1 := by
  obtain ⟨after, replied⟩ := handle_mirrors mirrors event.2 event.1
  -- Where the session stays, only its key store has to be followed.
  have stays (was : worker.sessionEstablished = true) (staying : Stays web buffers event)
      (kept : ∀ sendRoot receiveRoot, KeyStore web sendRoot receiveRoot worker →
        KeyStore web sendRoot receiveRoot (CryptoWorker.handle web event.2 worker event.1).1) :
      ∃ sendRoot receiveRoot,
        OpenedWith web (handle web event.2 buffers event.1).1
          (past ++ [⟨event.1, (handle web event.2 buffers event.1).2⟩]) sendRoot receiveRoot ∧
        KeyStore web sendRoot receiveRoot
          (CryptoWorker.handle web event.2 worker event.1).1 := by
    obtain ⟨sendRoot, receiveRoot, opened, store⟩ := held was
    exact ⟨sendRoot, receiveRoot, opened.next staying, kept _ _ store⟩
  obtain ⟨request, entropy⟩ := event
  cases request with
  | configure payload => cases established
  | generateIdentity => cases established
  | reset => cases established
  | unknown type => exact stays established trivial fun _ _ store => store
  | encrypt payload =>
      refine stays ?_ trivial fun _ _ store => encryptBinary_store store entropy payload
      by_contra closed
      simp [CryptoWorker.handle, CryptoWorker.encryptBinary, closed] at established
  | decrypt payload =>
      refine stays ?_ trivial fun _ _ store => decryptBinary_store store payload
      by_contra closed
      simp [CryptoWorker.handle, CryptoWorker.decryptBinary, closed] at established
  | establishSession peerPublicKey profileHashValue =>
      cases converted : toBytes peerPublicKey "peer public key" with
      | error reason =>
          simp only [CryptoWorker.handle, converted] at established
          refine stays established ?_ ?_
          · simp only [Stays, handle, converted]
          · simp only [CryptoWorker.handle, converted]
            exact fun _ _ store => store
      | ok peerRaw =>
          simp only [CryptoWorker.handle, converted] at established
          simp only [CryptoWorker.handle, handle, converted] at after replied
          rcases establishSession_cases web worker peerRaw (profileHashValue.getD "") with
            ⟨reason, refused⟩ | ⟨reason, closed⟩ | ⟨answered, sendRoot, receiveRoot, fresh⟩
          · rw [refused] at established after replied
            refine stays established ?_ ?_
            · simp only [Stays, handle, converted]
              rcases establishSession_outcomes web buffers peerRaw (profileHashValue.getD "") with
                same | ended | opened
              · exact same
              · rw [← after.established, ended] at established
                cases established
              · rw [opened] at replied
                cases replied
            · simp only [CryptoWorker.handle, converted, refused]
              exact fun _ _ store => store
          · rw [closed] at established
            cases established
          · have store : KeyStore web sendRoot receiveRoot _ := fresh.store
            refine ⟨sendRoot, receiveRoot, ?_, by
              simpa only [CryptoWorker.handle, converted] using store⟩
            rw [answered] at replied
            have replies : (handle web entropy buffers
                (.establishSession peerPublicKey profileHashValue)).2 = .ok .done := by
              simpa only [handle, converted, Except.map] using replied
            simp only [handle, converted] at replies
            have start := after.openedAt fresh
            refine ⟨buffers, past, _, (.establishSession peerPublicKey profileHashValue, entropy),
              [], reached, ?_, ⟨_, _, rfl⟩, start.1, start.2.1, start.2.2.1, start.2.2.2, ?_, ?_⟩
            · simp only [machine, handle, converted, replies]
            · simp only [handle, converted]
              exact .refl
            · simp only [handle, converted, replies, List.append_nil]

/-- In every reachable state of an established session the arrays hold the two chains at their
counters and the skipped keys of their own counters. -/
theorem key_arrays_hold_the_chains (web : WebCrypto) {buffers : WorkerBuffers}
    {history : List Answered}
    (run : Machine.Run (machine web) Machine.Unrestricted initial buffers history)
    (established : buffers.sessionEstablished = true) :
    ∃ sendRoot receiveRoot, OpenedWith web buffers history sendRoot receiveRoot ∧
      KeyArrays web sendRoot receiveRoot buffers := by
  suffices followed : ∃ worker, Mirrors web buffers worker ∧
      (worker.sessionEstablished = true → ∃ sendRoot receiveRoot,
        OpenedWith web buffers history sendRoot receiveRoot ∧
          KeyStore web sendRoot receiveRoot worker) by
    obtain ⟨worker, mirrors, store⟩ := followed
    obtain ⟨sendRoot, receiveRoot, opened, store⟩ := store (mirrors.established ▸ established)
    exact ⟨sendRoot, receiveRoot, opened, mirrors.keyArrays store⟩
  clear established
  induction run with
  | refl => exact ⟨_, mirrors_initial web, fun closed => nomatch closed⟩
  | next reached _ stepped ih =>
      rename_i before after past outputs event admitted
      obtain ⟨worker, mirrors, held⟩ := ih
      simp only [machine, Option.some.injEq, Prod.mk.injEq] at stepped
      obtain ⟨rfl, rfl⟩ := stepped
      exact ⟨_, (handle_mirrors mirrors event.2 event.1).1,
        handle_opened event reached mirrors held⟩

/-- A forged frame ahead of the chain leaves keys behind, and one of them opens a genuine frame. -/
theorem sample_keys_are_held : ∃ buffers history sendRoot receiveRoot,
    (machine sampleCrypto).execute initial (sampleOpening ++
      [(.decrypt (forgedRequest 3), sampleEntropy), (.decrypt sampleRequest, sampleEntropy)]) =
        some (buffers, history) ∧
      buffers.sessionEstablished = true ∧ buffers.skippedKeys.keys = [2] ∧
      OpenedWith sampleCrypto buffers history sendRoot receiveRoot ∧
      KeyArrays sampleCrypto sendRoot receiveRoot buffers := by
  have ran : ((machine sampleCrypto).execute initial (sampleOpening ++
      [(.decrypt (forgedRequest 3), sampleEntropy), (.decrypt sampleRequest, sampleEntropy)])).map
        (fun result => (result.1.sessionEstablished, result.1.skippedKeys.keys)) =
      some (true, [2]) := by decide +kernel
  obtain ⟨⟨buffers, history⟩, executed, same⟩ := Option.map_eq_some_iff.mp ran
  obtain ⟨established, keys⟩ := Prod.mk.inj same
  obtain ⟨sendRoot, receiveRoot, opened, arrays⟩ := key_arrays_hold_the_chains sampleCrypto
    (Machine.execute_run _ (Machine.along_unrestricted _ _) executed) established
  exact ⟨buffers, history, sendRoot, receiveRoot, executed, established, keys, opened, arrays⟩

end Claim

end OnlyTwo.CryptoWorker.WorkerBuffers
