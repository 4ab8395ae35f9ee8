import OnlyTwo.SessionDeeds

/-!
The transfers that a session lists. `transferOrder` holds the id of each view once and in the
order of the views, and of the views that have ended only the newest are kept. Whatever is
shown of a transfer keeps this: `upsertTransfer` builds the views anew from the order. An id
that enters the order by itself has to be there already.
-/

namespace OnlyTwo.Session

open Bytes FileProtocol FileSender FileReceiver Reliable AppMessages

/-- No id is listed twice. -/
structure Rows (session : SessionController) : Prop where
  order : session.transferOrder.Nodup
  views : (session.view.transfers.map TransferView.fileId).Nodup

/-- The views follow the order. -/
structure Filed (session : SessionController) : Prop where
  distinct : session.transferOrder.Nodup
  follows : session.view.transfers.map TransferView.fileId = session.transferOrder

structure Tidy (session : SessionController) : Prop extends Filed session where
  retained : (session.view.transfers.filter fun item => item.state.terminal).length ≤
    SessionController.maxRetainedTransfers
  transcript : session.view.transcript.length ≤ SessionController.maxTranscriptItems

theorem Rows.same {session : SessionController} (rows : Rows session) {one two : TransferView}
    (first : one ∈ session.view.transfers) (second : two ∈ session.view.transfers)
    (same : one.fileId = two.fileId) : one = two :=
  List.inj_on_of_nodup_map rows.views first second same

theorem Filed.rows {session : SessionController} (filed : Filed session) : Rows session :=
  ⟨filed.distinct, filed.follows ▸ filed.distinct⟩

namespace SessionController

variable {self : SessionController} {view : TransferView} {fileId : String}

/-- The transfer of this id is shown as over. -/
def ended (self : SessionController) (fileId : String) : Bool :=
  self.view.transfers.any fun item => item.fileId = fileId ∧ item.state.terminal

theorem ended_iff : self.ended fileId = true ↔
    ∃ item ∈ self.view.transfers, item.fileId = fileId ∧ item.state.terminal = true := by
  simp [ended]

/-- How many ended transfers stand before this one, or would if it were new. -/
def endedAhead (self : SessionController) (fileId : String) : Nat :=
  if fileId ∈ self.transferOrder then
    (self.transferOrder.takeWhile fun id => id ≠ fileId).countP self.ended
  else 0

section Showing

theorem foldl_get? (transfers : List TransferView) (views : InsertionMap String TransferView)
    (fileId : String) :
    (transfers.foldl (fun (views : InsertionMap String TransferView) item =>
      views.set item.fileId item) views).get? fileId =
      (transfers.reverse.find? fun item => item.fileId = fileId).or (views.get? fileId) := by
  induction transfers generalizing views with
  | nil => rfl
  | cons item rest ih =>
      rw [List.foldl_cons, ih, List.reverse_cons, List.find?_append, InsertionMap.get?_set]
      by_cases same : fileId = item.fileId
      · subst same
        cases rest.reverse.find? fun other => other.fileId = item.fileId <;> simp
      · cases rest.reverse.find? fun other => other.fileId = fileId <;>
          simp [same, Ne.symm same]

theorem viewsById_get? (transfers : List TransferView) (view : TransferView) (fileId : String) :
    (viewsById transfers view).get? fileId = if fileId = view.fileId then some view
      else transfers.reverse.find? fun item => item.fileId = fileId := by
  rw [viewsById, InsertionMap.get?_set, foldl_get?]
  simp

theorem ensureTransferOrder_mem (self : SessionController) (fileId other : String) :
    other ∈ (self.ensureTransferOrder fileId).transferOrder ↔
      other = fileId ∨ other ∈ self.transferOrder := by
  unfold ensureTransferOrder
  by_cases hit : fileId ∈ self.transferOrder
  · rw [if_pos hit]
    constructor
    · exact Or.inr
    · rintro (rfl | old)
      · exact hit
      · exact old
  · rw [if_neg hit]
    exact List.mem_cons

theorem ensureTransferOrder_nodup (distinct : self.transferOrder.Nodup) (fileId : String) :
    (self.ensureTransferOrder fileId).transferOrder.Nodup := by
  unfold ensureTransferOrder
  split
  · exact distinct
  · rename_i fresh
    exact List.nodup_cons.mpr ⟨fresh, distinct⟩

/-- Under distinct ids a view is found by its id. -/
theorem find?_of_mem (rows : Rows self) {item : TransferView}
    (member : item ∈ self.view.transfers) :
    self.view.transfers.reverse.find? (fun other => other.fileId = item.fileId) = some item := by
  have there : (self.view.transfers.reverse.find? fun other => other.fileId = item.fileId).isSome := by
    rw [List.find?_isSome]
    exact ⟨item, List.mem_reverse.mpr member, by simp⟩
  obtain ⟨found, located⟩ := Option.isSome_iff_exists.mp there
  have listed := List.mem_reverse.mp (List.mem_of_find?_eq_some located)
  have same : found.fileId = item.fileId := by simpa using List.find?_some located
  rw [located, rows.same listed member same]

theorem showTransfer_order (self : SessionController) (view : TransferView) :
    (self.showTransfer view).transferOrder = (self.ensureTransferOrder view.fileId).transferOrder := rfl

theorem ensureTransferOrder_transfers (self : SessionController) (fileId : String) :
    (self.ensureTransferOrder fileId).view.transfers = self.view.transfers := by
  unfold ensureTransferOrder
  split <;> rfl

theorem showTransfer_transfers (self : SessionController) (view : TransferView) :
    (self.showTransfer view).view.transfers =
      (self.ensureTransferOrder view.fileId).transferOrder.filterMap
        (viewsById self.view.transfers view).get? := by
  rw [← ensureTransferOrder_transfers self view.fileId]
  rfl

theorem showTransfer_among {item : TransferView}
    (member : item ∈ (self.showTransfer view).view.transfers) :
    item = view ∨ item ∈ self.view.transfers ∧ item.fileId ≠ view.fileId := by
  rw [showTransfer_transfers, List.mem_filterMap] at member
  obtain ⟨id, _, found⟩ := member
  rw [viewsById_get?] at found
  split at found
  · exact Or.inl (Option.some.inj found).symm
  · rename_i other
    have own : item.fileId = id := by simpa using List.find?_some found
    exact Or.inr ⟨List.mem_reverse.mp (List.mem_of_find?_eq_some found), own ▸ other⟩

theorem showTransfer_shown (self : SessionController) (view : TransferView) :
    view ∈ (self.showTransfer view).view.transfers := by
  rw [showTransfer_transfers, List.mem_filterMap]
  exact ⟨view.fileId, (ensureTransferOrder_mem _ _ _).mpr (Or.inl rfl),
    by rw [viewsById_get?, if_pos rfl]⟩

/-- A view stays if its id is in the order. -/
theorem showTransfer_stays (rows : Rows self) {item : TransferView}
    (member : item ∈ self.view.transfers) (ordered : item.fileId ∈ self.transferOrder)
    (other : item.fileId ≠ view.fileId) : item ∈ (self.showTransfer view).view.transfers := by
  rw [showTransfer_transfers, List.mem_filterMap]
  refine ⟨item.fileId, (ensureTransferOrder_mem _ _ _).mpr (Or.inr ordered), ?_⟩
  rw [viewsById_get?, if_neg other]
  exact find?_of_mem rows member

theorem showTransfer_mem (filed : Filed self) (item : TransferView) :
    item ∈ (self.showTransfer view).view.transfers ↔
      item = view ∨ item ∈ self.view.transfers ∧ item.fileId ≠ view.fileId := by
  constructor
  · exact showTransfer_among
  · rintro (rfl | ⟨member, other⟩)
    · exact showTransfer_shown self item
    · refine showTransfer_stays filed.rows member ?_ other
      rw [← filed.follows]
      exact List.mem_map_of_mem member

/-- Each view stands at the place of its id. -/
theorem showTransfer_sublist (self : SessionController) (view : TransferView) :
    ((self.showTransfer view).view.transfers.map TransferView.fileId).Sublist
      (self.ensureTransferOrder view.fileId).transferOrder := by
  rw [showTransfer_transfers]
  generalize (self.ensureTransferOrder view.fileId).transferOrder = order
  induction order with
  | nil => exact .slnil
  | cons id rest ih =>
      rw [List.filterMap_cons, viewsById_get?]
      by_cases own : id = view.fileId
      · rw [if_pos own, List.map_cons, own]
        exact ih.cons_cons _
      · rw [if_neg own]
        split
        · exact ih.cons _
        · rename_i item found
          have same : item.fileId = id := by simpa using List.find?_some found
          rw [List.map_cons, same]
          exact ih.cons_cons _

theorem showTransfer_rows (rows : Rows self) (view : TransferView) :
    Rows (self.showTransfer view) where
  order := ensureTransferOrder_nodup rows.order view.fileId
  views := (ensureTransferOrder_nodup rows.order view.fileId).sublist (showTransfer_sublist self view)

/-- Every id of the order finds a view of its own. -/
theorem showTransfer_filed (filed : Filed self) (view : TransferView) :
    Filed (self.showTransfer view) where
  distinct := ensureTransferOrder_nodup filed.distinct view.fileId
  follows := by
    -- The new view replaces the one of its id; every other id keeps the view it had.
    have finds : ∀ id ∈ (self.ensureTransferOrder view.fileId).transferOrder,
        ((viewsById self.view.transfers view).get? id).map TransferView.fileId = some id := by
      intro id member
      rw [viewsById_get?]
      split
      · rename_i own
        rw [own, Option.map_some]
      · rename_i other
        have old := (ensureTransferOrder_mem _ _ _).mp member |>.resolve_left other
        rw [← filed.follows] at old
        obtain ⟨item, listed, rfl⟩ := List.mem_map.mp old
        rw [find?_of_mem filed.rows listed, Option.map_some]
    rw [showTransfer_transfers, showTransfer_order, List.map_filterMap]
    generalize (self.ensureTransferOrder view.fileId).transferOrder = order at finds
    -- The rows are the views of the order's ids, one for one.
    induction order with
    | nil => rfl
    | cons id rest ih =>
        rw [List.filterMap_cons, finds id List.mem_cons_self]
        exact congrArg (id :: ·) (ih fun other member => finds other (List.mem_cons_of_mem _ member))

theorem showTransfer_ended (filed : Filed self) (fileId : String) :
    (self.showTransfer view).ended fileId = true ↔
      fileId = view.fileId ∧ view.state.terminal = true ∨
        fileId ≠ view.fileId ∧ self.ended fileId = true := by
  rw [ended_iff, ended_iff]
  constructor
  · rintro ⟨item, member, rfl, finished⟩
    rcases (showTransfer_mem filed item).mp member with rfl | ⟨old, other⟩
    · exact Or.inl ⟨rfl, finished⟩
    · exact Or.inr ⟨other, item, old, rfl, finished⟩
  · rintro (⟨rfl, finished⟩ | ⟨other, item, old, rfl, finished⟩)
    · exact ⟨view, (showTransfer_mem filed view).mpr (Or.inl rfl), rfl, finished⟩
    · exact ⟨item, (showTransfer_mem filed item).mpr (Or.inr ⟨old, other⟩), rfl, finished⟩

theorem listFile_aside (self : SessionController) (view : TransferView) :
    Aside self (self.listFile view) := by
  simp only [listFile]
  split
  · exact .refl self
  · exact addDrawn_aside self _

end Showing

section Trimming

theorem forgetTransfers_order (fileIds : List String) (self : SessionController) :
    (fileIds.foldl forgetTransfer self).transferOrder =
      self.transferOrder.filter fun id => id ∉ fileIds := by
  induction fileIds generalizing self with
  | nil => simp
  | cons fileId rest ih =>
      rw [List.foldl_cons, ih]
      change (self.transferOrder.filter _).filter _ = _
      rw [List.filter_filter]
      exact List.filter_congr fun id _ => by simp [Bool.and_comm]

theorem forgetTransfers_transfers (fileIds : List String) (self : SessionController) :
    (fileIds.foldl forgetTransfer self).view.transfers =
      self.view.transfers.filter fun item => item.fileId ∉ fileIds := by
  induction fileIds generalizing self with
  | nil => simp
  | cons fileId rest ih =>
      rw [List.foldl_cons, ih]
      change (self.view.transfers.filter _).filter _ = _
      rw [List.filter_filter]
      exact List.filter_congr fun item _ => by simp [Bool.and_comm]

theorem forgetTransfers_transcript (fileIds : List String) (self : SessionController) :
    (fileIds.foldl forgetTransfer self).view.transcript.length ≤ self.view.transcript.length := by
  induction fileIds generalizing self with
  | nil => exact le_refl _
  | cons fileId rest ih => exact (ih _).trans (List.length_filter_le _ _)

theorem forgetTransfers_filed (filed : Filed self) (fileIds : List String) :
    Filed (fileIds.foldl forgetTransfer self) where
  distinct := by
    rw [forgetTransfers_order]
    exact filed.distinct.filter _
  follows := by
    rw [forgetTransfers_order, forgetTransfers_transfers, ← filed.follows, List.filter_map]
    rfl

theorem forgetTransfers_rows (rows : Rows self) (fileIds : List String) :
    Rows (fileIds.foldl forgetTransfer self) where
  order := by
    rw [forgetTransfers_order]
    exact rows.order.filter _
  views := by
    rw [forgetTransfers_transfers]
    exact rows.views.sublist (List.filter_sublist.map _)

theorem mem_retained (filed : Filed self) {item : TransferView}
    (member : item ∈ self.view.transfers) (finished : item.state.terminal = true) :
    item.fileId ∈ self.retained := by
  refine List.mem_filter.mpr ⟨?_, ended_iff.mpr ⟨item, member, rfl, finished⟩⟩
  rw [← filed.follows]
  exact List.mem_map_of_mem member

theorem retained_length (filed : Filed self) : self.retained.length =
    (self.view.transfers.filter fun item => item.state.terminal).length := by
  have inside : (self.view.transfers.filter fun item => item.state.terminal).map
      TransferView.fileId ⊆ self.retained := by
    intro id member
    obtain ⟨item, kept, rfl⟩ := List.mem_map.mp member
    obtain ⟨listed, finished⟩ := List.mem_filter.mp kept
    exact mem_retained filed listed finished
  have outside : self.retained ⊆ (self.view.transfers.filter fun item => item.state.terminal).map
      TransferView.fileId := by
    intro id member
    obtain ⟨item, listed, own, finished⟩ := ended_iff.mp (List.mem_filter.mp member).2
    exact List.mem_map.mpr ⟨item, List.mem_filter.mpr ⟨listed, finished⟩, own⟩
  have distinct : ((self.view.transfers.filter fun item => item.state.terminal).map
      TransferView.fileId).Nodup := filed.rows.views.sublist (List.filter_sublist.map _)
  have less := ((filed.distinct.filter _).subperm outside).length_le
  have more := (distinct.subperm inside).length_le
  rw [List.length_map] at less more
  exact le_antisymm less more

/-- Only the newest of the ended transfers stay. -/
theorem trimRetainedTransfers_retained (filed : Filed self) :
    (self.trimRetainedTransfers.view.transfers.filter fun item => item.state.terminal).length ≤
      maxRetainedTransfers := by
  have kept := forgetTransfers_filed filed (self.retained.drop maxRetainedTransfers)
  have newest : self.trimRetainedTransfers.retained ⊆ self.retained.take maxRetainedTransfers := by
    intro id member
    obtain ⟨ordered, finished⟩ := List.mem_filter.mp member
    obtain ⟨item, listed, rfl, terminal⟩ := ended_iff.mp finished
    rw [trimRetainedTransfers, forgetTransfers_transfers] at listed
    obtain ⟨old, spared⟩ := List.mem_filter.mp listed
    have among := mem_retained filed old terminal
    rw [← List.take_append_drop maxRetainedTransfers self.retained] at among
    exact (List.mem_append.mp among).resolve_right (by simpa using spared)
  have size : self.trimRetainedTransfers.retained.length = _ := retained_length kept
  rw [← size]
  exact ((kept.distinct.filter _).subperm newest).length_le.trans (List.length_take_le _ _)

theorem upsertTransfer_tidy (tidy : Tidy self) (view : TransferView) :
    Tidy (self.upsertTransfer view) := by
  have shown := showTransfer_filed tidy.toFiled view
  have aside := listFile_aside (self.showTransfer view) view
  have listed : Filed ((self.showTransfer view).listFile view) :=
    ⟨aside.order ▸ shown.distinct, by rw [aside.transfers, aside.order, shown.follows]⟩
  refine ⟨forgetTransfers_filed listed _, trimRetainedTransfers_retained listed, ?_⟩
  refine (forgetTransfers_transcript _ _).trans (aside.transcript ?_)
  have same : (self.showTransfer view).view.transcript = self.view.transcript := by
    change (self.ensureTransferOrder view.fileId).view.transcript = _
    unfold ensureTransferOrder
    split <;> rfl
  rw [same]
  exact tidy.transcript

end Trimming

section Entering

theorem upsertTransfer_order (self : SessionController) (view : TransferView) :
    (self.upsertTransfer view).transferOrder =
      (self.showTransfer view).transferOrder.filter fun id =>
        id ∉ (self.showTransfer view).retained.drop maxRetainedTransfers := by
  have aside := listFile_aside (self.showTransfer view) view
  have same : ((self.showTransfer view).listFile view).retained = (self.showTransfer view).retained := by
    rw [retained, aside.order, aside.transfers]
    rfl
  rw [upsertTransfer, trimRetainedTransfers, forgetTransfers_order, same, aside.order]

/-- A view that has not ended is listed at its place, and no other one makes room for it. -/
theorem upsertTransfer_keeps (tidy : Tidy self) (live : view.state.terminal = false)
    (listed : fileId = view.fileId ∨ fileId ∈ self.transferOrder) :
    fileId ∈ (self.upsertTransfer view).transferOrder := by
  have fewer : (self.showTransfer view).retained ⊆ self.retained := by
    intro id member
    obtain ⟨ordered, finished⟩ := List.mem_filter.mp member
    rcases (showTransfer_ended tidy.toFiled id).mp finished with ⟨_, terminal⟩ | ⟨other, old⟩
    · rw [live] at terminal
      cases terminal
    · rw [showTransfer_order, ensureTransferOrder_mem] at ordered
      exact List.mem_filter.mpr ⟨ordered.resolve_left other, old⟩
  have bound : (self.showTransfer view).retained.length ≤ maxRetainedTransfers := by
    have shown := showTransfer_filed tidy.toFiled view
    refine (((shown.distinct.filter _).subperm fewer).length_le).trans ?_
    rw [retained_length tidy.toFiled]
    exact tidy.retained
  rw [upsertTransfer_order, List.drop_eq_nil_of_le bound, List.mem_filter]
  refine ⟨?_, by simp⟩
  rw [showTransfer_order, ensureTransferOrder_mem]
  exact listed

/-- What stands before an entry of a list that keeps `count` entries in front is not dropped. -/
theorem not_mem_drop {front back : List String} {count : Nat} (room : front.length < count)
    (distinct : (front ++ fileId :: back).Nodup) :
    fileId ∉ (front ++ fileId :: back).drop count := by
  intro member
  obtain ⟨extra, rfl⟩ := Nat.exists_eq_add_of_lt room
  rw [Nat.add_assoc, List.drop_append, List.drop_eq_nil_of_le (by omega), List.nil_append,
    Nat.add_sub_cancel_left, List.drop_succ_cons] at member
  have later := List.mem_of_mem_drop member
  have own := (List.nodup_append.mp distinct).2.1
  exact (List.nodup_cons.mp own).1 later

/-- The ended transfers in front of an entry are those that `endedAhead` counts. -/
theorem ensureTransferOrder_split (self : SessionController) (fileId : String) :
    ∃ front back, (self.ensureTransferOrder fileId).transferOrder = front ++ fileId :: back ∧
      front.countP self.ended = self.endedAhead fileId := by
  rw [ensureTransferOrder, endedAhead]
  by_cases old : fileId ∈ self.transferOrder
  · rw [if_pos old, if_pos old]
    obtain ⟨front, back, split, fresh⟩ := List.eq_append_cons_of_mem old
    refine ⟨front, back, split, ?_⟩
    have differ : ∀ id ∈ front, decide (id ≠ fileId) = true := by
      intro id member
      rw [decide_eq_true_eq]
      exact fun same => fresh (same ▸ member)
    rw [split, List.takeWhile_append_of_pos differ, List.takeWhile_cons_of_neg (by simp),
      List.append_nil]
  · rw [if_neg old, if_neg old]
    exact ⟨[], self.transferOrder, rfl, rfl⟩

/-- A view that has ended stays if there is room for it. -/
theorem upsertTransfer_lists (tidy : Tidy self)
    (room : view.state.terminal = true → self.endedAhead view.fileId < maxRetainedTransfers) :
    view.fileId ∈ (self.upsertTransfer view).transferOrder := by
  cases finished : view.state.terminal with
  | false => exact upsertTransfer_keeps tidy finished (Or.inl rfl)
  | true =>
      have shown := showTransfer_filed tidy.toFiled view
      obtain ⟨front, back, split, ahead⟩ := ensureTransferOrder_split self view.fileId
      rw [← showTransfer_order] at split
      have distinct := shown.distinct
      rw [split] at distinct
      -- The views ahead of it have ended exactly if they had before.
      have apart : ∀ id ∈ front, (self.showTransfer view).ended id = self.ended id := by
        intro id member
        have other : id ≠ view.fileId := by
          rintro rfl
          exact (List.nodup_append.mp distinct).2.2 _ member _ List.mem_cons_self rfl
        rw [Bool.eq_iff_iff, showTransfer_ended tidy.toFiled]
        simp [other]
      have own : (self.showTransfer view).ended view.fileId = true :=
        (showTransfer_ended tidy.toFiled _).mpr (Or.inl ⟨rfl, finished⟩)
      -- Among the views that have ended it stands behind those ahead of it.
      have kept : (self.showTransfer view).retained = front.filter (self.showTransfer view).ended ++
          view.fileId :: back.filter (self.showTransfer view).ended := by
        change List.filter (self.showTransfer view).ended _ = _
        rw [split, List.filter_append, List.filter_cons_of_pos own]
      have before : (front.filter (self.showTransfer view).ended).length < maxRetainedTransfers := by
        rw [← List.countP_eq_length_filter,
          List.countP_congr (fun id member => by rw [apart id member]), ahead]
        exact room finished
      -- Fewer than the limit are ahead, so the cut falls behind it.
      have spared : view.fileId ∉ (self.showTransfer view).retained.drop maxRetainedTransfers := by
        have once := shown.distinct.filter (self.showTransfer view).ended
        change (self.showTransfer view).retained.Nodup at once
        rw [kept] at once ⊢
        exact not_mem_drop before once
      rw [upsertTransfer_order, List.mem_filter, decide_eq_true_eq]
      refine ⟨?_, spared⟩
      rw [showTransfer_order, ensureTransferOrder_mem]
      exact Or.inl rfl

end Entering

section Callbacks

theorem tidy_of_aside {after : SessionController} (tidy : Tidy self) (aside : Aside self after) :
    Tidy after where
  distinct := aside.order ▸ tidy.distinct
  follows := by rw [aside.transfers, aside.order, tidy.follows]
  retained := by
    rw [aside.transfers]
    exact tidy.retained
  transcript := aside.transcript tidy.transcript

/-- The components hold none of what is listed. -/
theorem tidy_of_same {after : SessionController} (tidy : Tidy self)
    (order : after.transferOrder = self.transferOrder) (view : after.view = self.view) :
    Tidy after where
  distinct := order ▸ tidy.distinct
  follows := by rw [view, order, tidy.follows]
  retained := by
    rw [view]
    exact tidy.retained
  transcript := by
    rw [view]
    exact tidy.transcript

theorem absorbSender_tidy {onUpdate : SessionController → SenderSnapshot → SessionController}
    (keeps : ∀ session snapshot, Tidy session → Tidy (onUpdate session snapshot))
    (notes : List SenderNote) (tidy : Tidy self) : Tidy (absorbSender onUpdate notes self) := by
  induction notes generalizing self with
  | nil => exact tidy
  | cons note rest ih =>
      cases note with
      | onUpdate snapshot => exact ih (keeps self snapshot tidy)
      | sendApp message lane => exact ih (tidy_of_aside tidy (sendApp_aside self _ _ _))
      | setTimeout timer => exact ih tidy

theorem startQueued_tidy (tidy : Tidy self) (fileId : String) : Tidy (self.startQueued fileId) :=
  absorbSender_tidy (fun _ _ kept => upsertTransfer_tidy kept _) _ (tidy_of_same tidy rfl rfl)

theorem startNextQueuedFileIfAllowed_tidy (tidy : Tidy self) :
    Tidy self.startNextQueuedFileIfAllowed := by
  unfold startNextQueuedFileIfAllowed
  split
  · exact tidy
  · split
    · exact tidy
    · split
      · exact tidy
      · split
        · exact tidy
        · exact startQueued_tidy tidy _

theorem updateSender_tidy (tidy : Tidy self) (snapshot : SenderSnapshot) :
    Tidy (self.updateSender snapshot) := by
  have shown : Tidy (self.showSender snapshot) := upsertTransfer_tidy tidy _
  simp only [updateSender]
  split
  · exact startNextQueuedFileIfAllowed_tidy shown
  · exact shown

theorem withSender_tidy (tidy : Tidy self) (turned : Sender) : Tidy (self.withSender turned) :=
  absorbSender_tidy (fun _ snapshot kept => updateSender_tidy kept snapshot) _
    (tidy_of_same tidy rfl rfl)

theorem absorbReceiver_tidy (notes : List ReceiverNote) (tidy : Tidy self) :
    Tidy (absorbReceiver notes self) := by
  induction notes generalizing self with
  | nil => exact tidy
  | cons note rest ih =>
      cases note with
      | onUpdate snapshot => exact ih (upsertTransfer_tidy tidy _)
      | sendApp message => exact ih (tidy_of_aside tidy (sendApp_aside self _ _ _))
      | onComplete file => exact ih tidy
      | stored ref fileId index bytes status => exact ih tidy

theorem withReceiver_tidy (tidy : Tidy self) (turned : Receiver) : Tidy (self.withReceiver turned) :=
  absorbReceiver_tidy _ (tidy_of_same tidy rfl rfl)

theorem forgetTransfer_tidy (tidy : Tidy self) (fileId : String) :
    Tidy (self.forgetTransfer fileId) := by
  refine ⟨forgetTransfers_filed tidy.toFiled [fileId], ?_, ?_⟩
  · exact (List.filter_sublist.filter _).length_le.trans tidy.retained
  · exact (forgetTransfers_transcript [fileId] self).trans tidy.transcript

theorem cleared_tidy {after : SessionController} (tidy : Tidy self) (cleared : Cleared self after)
    (none : after.view.transfers = []) : Tidy after where
  distinct := cleared.order ▸ List.nodup_nil
  follows := by rw [none, cleared.order, List.map_nil]
  retained := by
    rw [none]
    exact Nat.zero_le _
  transcript := cleared.transcript tidy.transcript

end Callbacks

end SessionController

section Ledger

open SessionController

/-- An entry of the order has to be there, and nothing may be displayed when it is dropped. -/
def ledger : Rules where
  turn _ _ := True
  receive _ _ := True
  draw _ := True
  order session fileId := fileId ∈ session.transferOrder
  tear session := session.view.transfers = []

theorem ledger_fair : ledger.Fair :=
  ⟨fun _ _ => trivial, fun _ _ => trivial, fun _ => trivial, fun _ => trivial⟩

variable {digest : Bytes → String} {before after : SessionController}

theorem Deed.tidy (deed : Deed digest ledger before after) (tidy : Tidy before) : Tidy after := by
  cases deed with
  | aside aside => exact tidy_of_aside tidy aside
  | adopted id => exact tidy_of_same tidy rfl rfl
  | sent event _ _ => exact withSender_tidy tidy _
  | offered file _ _ =>
      have drawn : Tidy { before with made := before.made + 1 } := tidy_of_same tidy rfl rfl
      exact withSender_tidy drawn _
  | next => exact startNextQueuedFileIfAllowed_tidy tidy
  | received event _ _ => exact withReceiver_tidy tidy _
  | forgot transfer _ _ => exact forgetTransfer_tidy tidy _
  | ordered fileId listed =>
      have unchanged : before.ensureTransferOrder fileId = before := if_pos listed
      rw [unchanged]
      exact tidy
  | torn cleared kept none => exact cleared_tidy tidy cleared (kept.trans none)
  | emptied cleared none => exact cleared_tidy tidy cleared none

theorem Deeds.tidy (deeds : Deeds digest ledger before after) (tidy : Tidy before) :
    Tidy after := by
  induction deeds with
  | refl => exact tidy
  | tail _ deed ih => exact deed.tidy ih

end Ledger

end OnlyTwo.Session
