import ResultCursor.BatchReply

/-! What is wrong with a reply that cannot be read, and what is read of a batch. -/

namespace ResultCursor.BatchReply

variable {α β : Type}

theorem documentsOf_map (batch : List Document) :
    documentsOf (batch.map .document) = .ok batch := by
  induction batch with
  | nil => rfl
  | cons d batch ih => simp only [List.map_cons, documentsOf, ih]

/-- Whatever keeps a reply from being read makes it an invalid one. -/
def OnlyInvalid (x : Except Failure α) : Prop :=
  ∀ f, x = .error f → ∃ fault, f = .invalidReply fault

theorem OnlyInvalid.bind {x : Except Failure α} {g : α → Except Failure β} (hx : OnlyInvalid x)
    (hg : ∀ a, OnlyInvalid (g a)) : OnlyInvalid (x >>= g) := by
  intro f h
  cases x with
  | error e =>
    cases h
    exact hx _ rfl
  | ok a => exact hg a f h

theorem required_onlyInvalid (d : Document) (name : String) (view : Bson → Option α) :
    OnlyInvalid (required d name view) := by
  intro f h
  unfold required at h
  split at h
  · cases h
  · cases h
    exact ⟨_, rfl⟩

theorem cursorId_onlyInvalid (d : Document) : OnlyInvalid (cursorId d) := by
  intro f h
  unfold cursorId at h
  split at h <;> cases h
  · exact ⟨_, rfl⟩
  · exact ⟨_, rfl⟩

theorem namespaceOf_onlyInvalid (text : String) : OnlyInvalid (namespaceOf text) := by
  intro f h
  unfold namespaceOf at h
  split at h <;> cases h
  exact ⟨_, rfl⟩

theorem documentsOf_onlyInvalid (items : List Bson) : OnlyInvalid (documentsOf items) := by
  induction items with
  | nil => intro f h; cases h
  | cons item rest ih =>
    intro f h
    unfold documentsOf at h
    split at h
    · cases h
    · next hd =>
      cases hd
      split at h
      · cases h
      · next hr =>
        cases h
        exact ih _ hr
    · cases h
      exact ⟨_, rfl⟩

theorem ofDocument_onlyInvalid (place : Place) (reply : Document) :
    OnlyInvalid (ofDocument place reply) := by
  unfold ofDocument
  refine (required_onlyInvalid _ _ _).bind fun cursor => ?_
  refine (cursorId_onlyInvalid _).bind fun id => ?_
  refine (required_onlyInvalid _ _ _).bind fun text => ?_
  refine (namespaceOf_onlyInvalid _).bind fun ns => ?_
  refine (required_onlyInvalid _ _ _).bind fun items => ?_
  refine (documentsOf_onlyInvalid _).bind fun documents => ?_
  intro f h
  cases h

end ResultCursor.BatchReply
