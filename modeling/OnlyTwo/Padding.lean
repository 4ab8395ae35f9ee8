import Mathlib.Data.List.Dedup
import OnlyTwo.KeyStore

/-!
The padding layer of the worker: a length field, the data and random filler up
to a configured bucket. Buckets above the quota of `getRandomValues` cannot be
filled, so whatever `buildPlaintext` returns is short enough for its length
field, and the larger buckets of a profile are refused although they are listed.
-/

namespace OnlyTwo.CryptoWorker

open Bytes Envelope

theorem selectPaddingBucket_ok {config : CryptoConfig} {actualBytes bucket : Nat}
    (selected : selectPaddingBucket config actualBytes = .ok bucket) :
    bucket ∈ config.paddingBuckets ∧ actualBytes + 4 ≤ bucket := by
  unfold selectPaddingBucket at selected
  split at selected
  · rename_i found
    cases selected
    have fits := List.find?_some found
    exact ⟨List.mem_mergeSort.mp (List.mem_of_find?_eq_some found), of_decide_eq_true fits⟩
  · cases selected

theorem randomBytes_ok {source : Nat → UInt8} {length : Nat} {out : Bytes}
    (filled : randomBytes source length = .ok out) : length ≤ 65536 ∧ out.length = length := by
  unfold randomBytes at filled
  split at filled
  · cases filled
  · cases filled
    exact ⟨by omega, by simp⟩

/-- The shape of every padded plaintext. -/
theorem buildPlaintext_ok {config : CryptoConfig} {filler : Nat → UInt8} {actual padded : Bytes}
    (built : buildPlaintext config filler actual = .ok padded) :
    ∃ rest, padded = bigEndian 4 actual.length ++ actual ++ rest ∧
      padded.length ∈ config.paddingBuckets ∧ actual.length + 4 ≤ padded.length ∧
      padded.length ≤ 65536 := by
  simp only [buildPlaintext, bind, Except.bind] at built
  split at built
  · cases built
  rename_i bucket selected
  split at built
  · cases built
  rename_i out filled
  cases built
  obtain ⟨listed, fits⟩ := selectPaddingBucket_ok selected
  obtain ⟨quota, length⟩ := randomBytes_ok filled
  have total : (bigEndian 4 actual.length ++ actual ++ out.drop (4 + actual.length)).length =
      bucket := by
    simp only [List.length_append, bigEndian_length, List.length_drop, length]
    omega
  refine ⟨_, rfl, ?_, ?_, ?_⟩
  · rw [total]; exact listed
  · rw [total]; exact fits
  · rw [total]; exact quota

/-- Padding is undone by every worker configured with the same buckets. -/
theorem parsePlaintext_buildPlaintext {sender receiver : CryptoConfig} {filler : Nat → UInt8}
    {actual padded : Bytes} (built : buildPlaintext sender filler actual = .ok padded)
    (same : sender.paddingBuckets = receiver.paddingBuckets) :
    parsePlaintext receiver padded = .ok actual := by
  obtain ⟨rest, shape, listed, fits, quota⟩ := buildPlaintext_ok built
  have header : padded.take 4 = bigEndian 4 actual.length := by
    rw [shape, List.append_assoc, List.take_append_of_le_length (by simp)]
    exact List.take_of_length_le (by simp)
  have body : padded.drop 4 = actual ++ rest := by
    rw [shape, List.append_assoc, List.drop_append_of_le_length (by simp)]
    simp
  have length : readBigEndian (padded.take 4) = actual.length := by
    rw [header, read_bigEndian]
    exact Nat.mod_eq_of_lt (by omega)
  have inside : ¬ padded.length - 4 < actual.length := by omega
  rw [same] at listed
  simp only [parsePlaintext, listed, not_true_eq_false, ↓reduceIte, length, inside, body,
    List.take_left]

section Buckets

/-- The smallest configured bucket that has room for the length field and the data. -/
structure SmallestBucket (config : CryptoConfig) (actualBytes bucket : Nat) : Prop where
  listed : bucket ∈ config.paddingBuckets
  fits : actualBytes + 4 ≤ bucket
  least : ∀ other ∈ config.paddingBuckets, actualBytes + 4 ≤ other → bucket ≤ other

variable {config : CryptoConfig} {filler : Nat → UInt8} {actual padded : Bytes}
  {actualBytes bucket : Nat}

theorem SmallestBucket.unique {other : Nat} (one : SmallestBucket config actualBytes bucket)
    (two : SmallestBucket config actualBytes other) : bucket = other :=
  Nat.le_antisymm (one.least other two.listed two.fits) (two.least bucket one.listed one.fits)

/-- The order of the configured list does not matter, nor does a bucket listed twice. -/
theorem selectPaddingBucket_smallest (selected : selectPaddingBucket config actualBytes = .ok bucket) :
    SmallestBucket config actualBytes bucket := by
  obtain ⟨listed, fits⟩ := selectPaddingBucket_ok selected
  refine ⟨listed, fits, ?_⟩
  intro other member enough
  unfold selectPaddingBucket at selected
  split at selected
  · rename_i found
    cases selected
    obtain ⟨_, before, after, split, passed⟩ := List.find?_eq_some_iff_append.mp found
    have ordered : (config.paddingBuckets.mergeSort (· ≤ ·)).Pairwise
        (fun one two => decide (one ≤ two) = true) := by
      apply List.pairwise_mergeSort
      · intro one two three
        simpa using Nat.le_trans
      · intro one two
        simpa using Nat.le_total one two
    have sorted : (config.paddingBuckets.mergeSort (· ≤ ·)).Pairwise (fun one two => one ≤ two) := by
      simpa using ordered
    have placed : other ∈ config.paddingBuckets.mergeSort (· ≤ ·) := List.mem_mergeSort.mpr member
    rw [split] at sorted placed
    rcases List.mem_append.mp placed with early | late
    · have short := passed other early
      simp [enough] at short
    · rcases List.mem_cons.mp late with rfl | behind
      · exact Nat.le_refl _
      · exact (List.pairwise_cons.mp (List.pairwise_append.mp sorted).2.1).1 other behind
  · cases selected

theorem selectPaddingBucket_of_fits (listed : bucket ∈ config.paddingBuckets)
    (fits : actualBytes + 4 ≤ bucket) :
    ∃ chosen, selectPaddingBucket config actualBytes = .ok chosen := by
  unfold selectPaddingBucket
  split
  · exact ⟨_, rfl⟩
  · rename_i missing
    have short := List.find?_eq_none.mp missing bucket (List.mem_mergeSort.mpr listed)
    simp [fits] at short

theorem SmallestBucket.selected (smallest : SmallestBucket config actualBytes bucket) :
    selectPaddingBucket config actualBytes = .ok bucket := by
  obtain ⟨chosen, selected⟩ := selectPaddingBucket_of_fits smallest.listed smallest.fits
  rw [selected, (selectPaddingBucket_smallest selected).unique smallest]

/-- Data that no bucket has room for. -/
theorem selectPaddingBucket_none
    (short : ∀ bucket ∈ config.paddingBuckets, bucket < actualBytes + 4) :
    selectPaddingBucket config actualBytes = .error "Payload too large for selected profile" := by
  unfold selectPaddingBucket
  split
  · rename_i bucket found
    have listed := List.mem_mergeSort.mp (List.mem_of_find?_eq_some found)
    have fits := List.find?_some found
    have enough : actualBytes + 4 ≤ bucket := of_decide_eq_true fits
    have small := short bucket listed
    omega
  · rfl

/-- A bucket within the quota is filled up to its last byte. -/
theorem SmallestBucket.built (smallest : SmallestBucket config actual.length bucket)
    (quota : bucket ≤ 65536) (filler : Nat → UInt8) :
    ∃ padded, buildPlaintext config filler actual = .ok padded ∧ padded.length = bucket := by
  have fits := smallest.fits
  refine ⟨bigEndian 4 actual.length ++ actual ++
    ((List.range bucket).map filler).drop (4 + actual.length), ?_, ?_⟩
  · have within : ¬ 65536 < bucket := Nat.not_lt.mpr quota
    simp only [buildPlaintext, smallest.selected, randomBytes, within, ↓reduceIte, bind, Except.bind,
      pure, Except.pure]
  · simp only [List.length_append, bigEndian_length, List.length_drop, List.length_map,
      List.length_range]
    omega

/-- The random filler of a larger bucket is refused, whatever the data. -/
theorem SmallestBucket.unfilled (smallest : SmallestBucket config actual.length bucket)
    (excess : 65536 < bucket) (filler : Nat → UInt8) :
    buildPlaintext config filler actual = .error "QuotaExceededError" := by
  simp only [buildPlaintext, smallest.selected, randomBytes, excess, ↓reduceIte, bind, Except.bind]

theorem buildPlaintext_smallest (built : buildPlaintext config filler actual = .ok padded)
    (smallest : SmallestBucket config actual.length bucket) : padded.length = bucket := by
  by_cases quota : bucket ≤ 65536
  · obtain ⟨again, same, length⟩ := smallest.built quota filler
    rw [built] at same
    cases same
    exact length
  · rw [smallest.unfilled (Nat.not_le.mp quota) filler] at built
    cases built

/-- The configurations of a worker: the one it starts with, and what a `CONFIGURE` request
makes of one. -/
inductive Configured : CryptoConfig → Prop where
  | start : Configured initial.config
  | request {worker : Worker} (payload : ConfigurePayload) (before : Configured worker.config) :
      Configured (configure worker payload).config

/-- Sorting and dropping repeated buckets keeps the set of them. -/
theorem mem_configured (worker : Worker) (payload : ConfigurePayload) (bucket : Nat) :
    bucket ∈ (configure worker payload).config.paddingBuckets ↔
      match payload.paddingBuckets with
      | some listed => bucket ∈ (listed.filter (1024 ≤ ·)).map Int.toNat
      | none => bucket ∈ worker.config.paddingBuckets := by
  simp only [configure, resetSession, List.mem_mergeSort, List.mem_dedup]
  cases payload.paddingBuckets <;> rfl

theorem Configured.large (configured : Configured config) :
    ∀ bucket ∈ config.paddingBuckets, 1024 ≤ bucket := by
  induction configured with
  | start => decide
  | @request worker payload _ ih =>
      intro bucket member
      rw [mem_configured] at member
      split at member
      · obtain ⟨number, listed, rfl⟩ := List.mem_map.mp member
        have enough : (1024 : Int) ≤ number := of_decide_eq_true (List.mem_filter.mp listed).2
        omega
      · exact ih bucket member

theorem establishSession_config (web : WebCrypto) (worker : Worker) (peerRaw : Bytes)
    (profileHashValue : String) :
    (establishSession web worker peerRaw profileHashValue).1.config = worker.config := by
  unfold establishSession
  cases worker.identity with
  | none => rfl
  | some secret =>
      dsimp only
      split
      · rfl
      · split
        · rfl
        · cases web.agree secret peerRaw <;> rfl

theorem encryptBinary_config (web : WebCrypto) (entropy : Entropy) (worker : Worker)
    (payload : EncryptRequest) :
    (encryptBinary web entropy worker payload).1.config = worker.config := by
  unfold encryptBinary
  repeat' split
  all_goals rfl

/-- Only a `CONFIGURE` request changes the configuration. -/
theorem handle_config (web : WebCrypto) (entropy : Entropy) (worker : Worker) {request : Request}
    (other : ∀ payload, request ≠ .configure payload) :
    (handle web entropy worker request).1.config = worker.config := by
  cases request with
  | configure payload => exact absurd rfl (other payload)
  | generateIdentity => rfl
  | reset => rfl
  | unknown type => rfl
  | establishSession peerPublicKey profileHashValue =>
      simp only [handle]
      cases toBytes peerPublicKey "peer public key" with
      | error reason => rfl
      | ok peerRaw => exact establishSession_config web worker peerRaw _
  | encrypt payload => exact encryptBinary_config web entropy worker payload
  | decrypt payload => exact decryptBinary_config payload

/-- What padding is for: the data comes back, its length is hidden but for its bucket, data
without a bucket is refused, and whatever is parsed gives a part of itself. -/
structure Pads (config : CryptoConfig) (filler : Nat → UInt8) (actual : Bytes) : Prop where
  roundTrip : (∃ largest ∈ config.paddingBuckets, actual.length + 4 ≤ largest) →
    ∃ padded, buildPlaintext config filler actual = .ok padded ∧
      SmallestBucket config actual.length padded.length ∧ parsePlaintext config padded = .ok actual
  hides : ∀ otherFiller other bucket padded otherPadded,
    SmallestBucket config actual.length bucket → SmallestBucket config other.length bucket →
    buildPlaintext config filler actual = .ok padded →
    buildPlaintext config otherFiller other = .ok otherPadded → padded.length = otherPadded.length
  refuses : (∀ bucket ∈ config.paddingBuckets, bucket < actual.length + 4) →
    buildPlaintext config filler actual = .error "Payload too large for selected profile"
  slices : ∀ padded, (∃ reason, parsePlaintext config padded = .error reason) ∨
    ∃ length, 4 + length ≤ padded.length ∧
      parsePlaintext config padded = .ok ((padded.drop 4).take length)

/-- Padding does all of this exactly when the quota of `getRandomValues` allows the bucket. -/
theorem padding_holds_iff (config : CryptoConfig) (configured : Configured config)
    (filler : Nat → UInt8) (actual : Bytes) :
    Pads config filler actual ↔
      ∀ bucket, SmallestBucket config actual.length bucket → bucket ≤ 65536 := by
  constructor
  · intro pads bucket smallest
    obtain ⟨padded, built, same, _⟩ := pads.roundTrip ⟨bucket, smallest.listed, smallest.fits⟩
    obtain ⟨_, _, _, _, quota⟩ := buildPlaintext_ok built
    -- What was built has the length of the smallest bucket, so its filler was drawn in one go.
    rw [smallest.unique same]
    exact quota
  · intro quota
    refine ⟨?_, ?_, ?_, ?_⟩
    · rintro ⟨largest, listed, fits⟩
      obtain ⟨bucket, selected⟩ := selectPaddingBucket_of_fits listed fits
      have smallest := selectPaddingBucket_smallest selected
      obtain ⟨padded, built, length⟩ := smallest.built (quota bucket smallest) filler
      exact ⟨padded, built, length ▸ smallest, parsePlaintext_buildPlaintext built rfl⟩
    · intro otherFiller other bucket padded otherPadded smallest same built otherBuilt
      rw [buildPlaintext_smallest built smallest, buildPlaintext_smallest otherBuilt same]
    · intro short
      simp only [buildPlaintext, selectPaddingBucket_none short, bind, Except.bind]
    · intro padded
      simp only [parsePlaintext]
      split
      · exact Or.inl ⟨_, rfl⟩
      · rename_i listed
        have large := configured.large padded.length (not_not.mp listed)
        split
        · exact Or.inl ⟨_, rfl⟩
        · exact Or.inr ⟨_, by omega, rfl⟩

theorem short_data_is_padded :
    Pads initial.config (fun _ => 7) [1, 2, 3] ↔
      ∀ bucket, SmallestBucket initial.config 3 bucket → bucket ≤ 65536 :=
  padding_holds_iff initial.config .start (fun _ => 7) [1, 2, 3]

/-- The 128 KB bucket of the balanced profile cannot be filled. -/
theorem large_bucket_is_refused :
    ¬ ∀ config, Configured config → ∀ filler actual, Pads config filler actual := by
  intro claim
  let payload : ConfigurePayload := ⟨some [4096, 16384, 65536, 131072], some 512, some 2⟩
  have smallest : SmallestBucket (configure initial payload).config
      (List.replicate 65533 (0 : UInt8)).length 131072 := by
    rw [List.length_replicate]
    refine ⟨(mem_configured _ _ _).mpr (by decide), by decide, ?_⟩
    intro other member enough
    rw [mem_configured] at member
    simp only [payload, List.filter, Int.reduceLE, decide_true, List.map_cons, List.map_nil,
      Int.reduceToNat, List.mem_cons, List.not_mem_nil, or_false] at member
    omega
  obtain ⟨padded, built, _, _⟩ := (claim _ (.request payload .start) (fun _ => 7)
    (List.replicate 65533 0)).roundTrip ⟨_, smallest.listed, smallest.fits⟩
  rw [smallest.unfilled (by decide)] at built
  cases built

end Buckets

end OnlyTwo.CryptoWorker
