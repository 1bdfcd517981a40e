import WorkspaceLink.Json.Reader

/-!
# What the reader builds is canonical

Members are put at their place in the order of names as they are read, so every value that a text
stands for is canonical: in each of its objects the names increase, and no name stands twice.
-/
namespace WorkspaceLink

theorem bind_eq_ok {ε α β : Type} {x : Except ε α} {f : α → Except ε β} {b : β} :
    (x >>= f) = .ok b ↔ ∃ a, x = .ok a ∧ f a = .ok b := by
  cases x <;> simp [bind, Except.bind]

theorem map_eq_ok {ε α β : Type} {x : Except ε α} {f : α → β} {b : β} :
    x.map f = .ok b ↔ ∃ a, x = .ok a ∧ f a = b := by
  cases x <;> simp [Except.map]

namespace Members

variable {α : Type} {name : String} {value : α} {members : List (String × α)}

theorem mem_insert {entry : String × α} (h : entry ∈ insert name value members) :
    entry = (name, value) ∨ entry ∈ members := by
  fun_induction insert name value members with
  | case1 => simpa using h
  | case2 other held rest hlt => simpa using h
  | case3 held rest hlt => grind
  | case4 other held rest hlt hne ih => grind

/-- Names that increase still do when a member is set. -/
theorem pairwise_insert (h : (members.map Prod.fst).Pairwise (· < ·)) :
    ((insert name value members).map Prod.fst).Pairwise (· < ·) := by
  fun_induction insert name value members with
  | case1 => simp
  | case2 other held rest hlt =>
    refine List.pairwise_cons.mpr ⟨?_, h⟩
    intro later hlater
    rcases List.mem_cons.mp hlater with rfl | hlater
    · exact hlt
    · exact String.lt_trans hlt ((List.pairwise_cons.mp h).1 later hlater)
  | case3 held rest hlt => exact h
  | case4 other held rest hlt hne ih =>
    obtain ⟨hfirst, hrest⟩ := List.pairwise_cons.mp h
    refine List.pairwise_cons.mpr ⟨?_, ih hrest⟩
    intro later hlater
    obtain ⟨entry, hentry, rfl⟩ := List.mem_map.mp hlater
    rcases mem_insert hentry with rfl | hentry
    · exact Std.lt_of_le_of_ne hlt (Ne.symm hne)
    · exact hfirst entry.1 (List.mem_map_of_mem hentry)

theorem nodup_of_increasing (h : (members.map Prod.fst).Pairwise (· < ·)) :
    (members.map Prod.fst).Nodup := by
  refine List.Pairwise.imp ?_ h
  rintro name other hlt rfl
  exact String.lt_irrefl name hlt

end Members

namespace Json

theorem canonicalItems_iff {items : List Json} :
    CanonicalItems items ↔ ∀ item ∈ items, Canonical item := by
  induction items with
  | nil => simp [CanonicalItems]
  | cons item rest ih => simp [CanonicalItems, ih]

theorem canonicalMembers_iff {members : List (String × Json)} :
    CanonicalMembers members ↔ ∀ entry ∈ members, Canonical entry.2 := by
  induction members with
  | nil => simp [CanonicalMembers]
  | cons entry rest ih => simp [CanonicalMembers, ih]

theorem canonical_insert {name : String} {value : Json} {members : List (String × Json)}
    (hvalue : Canonical value) (h : Canonical (.obj members)) :
    Canonical (.obj (Members.insert name value members)) := by
  simp only [Canonical, canonicalMembers_iff] at h ⊢
  refine ⟨Members.pairwise_insert h.1, ?_⟩
  intro entry hentry
  rcases Members.mem_insert hentry with rfl | hentry
  · exact hvalue
  · exact h.2 entry hentry

theorem canonical_object {pairs : List (String × Json)}
    (h : ∀ pair ∈ pairs, pair.2.Canonical) : (object pairs).Canonical := by
  have hfold (members : List (String × Json)) (hmembers : Canonical (.obj members)) :
      Canonical (.obj (pairs.foldl (fun members pair =>
        Members.insert pair.1 pair.2 members) members)) := by
    induction pairs generalizing members with
    | nil => exact hmembers
    | cons pair rest ih =>
      exact ih (fun other hother => h other (List.mem_cons_of_mem _ hother)) _
        (canonical_insert (h pair List.mem_cons_self) hmembers)
  exact hfold [] (by simp [Canonical, CanonicalMembers])

section Nested

variable {item : List Char → Except Fault (Json × List Char)}
  (hitem : ∀ cs value rest, item cs = .ok (value, rest) → Canonical value)
include hitem

theorem canonical_readItems {fuel : Nat} {first : Bool} {seen items : List Json}
    {cs rest : List Char} (hseen : ∀ value ∈ seen, Canonical value)
    (h : readItems item fuel first seen cs = .ok (items, rest)) :
    ∀ value ∈ items, Canonical value := by
  induction fuel generalizing first seen cs with
  | zero => cases h
  | succ fuel ih =>
    have hnext : ∀ {next value after}, item next = .ok (value, after) →
        readItems item fuel false (value :: seen) after = .ok (items, rest) →
          ∀ value ∈ items, Canonical value := by
      intro next value after hvalue hread
      refine ih ?_ hread
      intro other hother
      rcases List.mem_cons.mp hother with rfl | hother
      · exact hitem _ _ _ hvalue
      · exact hseen other hother
    rw [readItems] at h
    split at h
    · cases h
    · cases h
      simpa using hseen
    · split at h
      · cases h
      · split at h
        · cases h
        · cases h
        · obtain ⟨⟨value, after⟩, hvalue, h⟩ := bind_eq_ok.mp h
          exact hnext hvalue h
    · split at h
      · obtain ⟨⟨value, after⟩, hvalue, h⟩ := bind_eq_ok.mp h
        exact hnext hvalue h
      · cases h

theorem canonical_readMember {cs rest : List Char} {member : String × Json}
    (h : readMember item cs = .ok (member, rest)) : Canonical member.2 := by
  obtain ⟨⟨name, after⟩, -, h⟩ := bind_eq_ok.mp h
  simp only at h
  split at h
  · cases h
  · obtain ⟨⟨value, after⟩, hvalue, h⟩ := bind_eq_ok.mp h
    cases h
    exact hitem _ _ _ hvalue
  · cases h

theorem canonical_readMembers {fuel : Nat} {first : Bool} {seen members : List (String × Json)}
    {cs rest : List Char} (hseen : Canonical (.obj seen))
    (h : readMembers item fuel first seen cs = .ok (members, rest)) : Canonical (.obj members) := by
  induction fuel generalizing first seen cs with
  | zero => cases h
  | succ fuel ih =>
    have hnext : ∀ next, (readMember item next >>= fun (entry, rest) =>
          readMembers item fuel false (Members.insert entry.1 entry.2 seen) rest) =
            .ok (members, rest) → Canonical (.obj members) := by
      intro next hread
      obtain ⟨⟨entry, after⟩, hentry, hread⟩ := bind_eq_ok.mp hread
      exact ih (canonical_insert (canonical_readMember hitem hentry) hseen) hread
    rw [readMembers] at h
    split at h
    · cases h
    · cases h
      exact hseen
    · split at h
      · cases h
      · split at h
        · cases h
        · exact hnext _ h
        · cases h
    · split at h
      · exact hnext _ h
      · cases h
    · cases h

end Nested

theorem canonical_readLiteral {literal value : Json} {word cs rest : List Char}
    (hliteral : Canonical literal) (h : readLiteral literal word cs = .ok (value, rest)) :
    Canonical value := by
  fun_induction readLiteral literal word cs with
  | case1 cs =>
    cases h
    exact hliteral
  | case2 => cases h
  | case3 more c cs ih => exact ih h
  | case4 => cases h

theorem canonical_readValue (depth : Nat) : ∀ cs value rest,
    readValue depth cs = .ok (value, rest) → Canonical value := by
  induction depth using Nat.strongRecOn with
  | ind depth ih =>
    intro cs value rest h
    unfold readValue at h
    split at h
    · cases h
    · exact canonical_readLiteral (by trivial) h
    · exact canonical_readLiteral (by trivial) h
    · exact canonical_readLiteral (by trivial) h
    · obtain ⟨_, -, h⟩ := bind_eq_ok.mp h
      cases h
      trivial
    · obtain ⟨_, -, h⟩ := bind_eq_ok.mp h
      cases h
      trivial
    · split at h
      · cases h
      next depth =>
        obtain ⟨⟨items, after⟩, hread, h⟩ := bind_eq_ok.mp h
        cases h
        exact canonicalItems_iff.mpr
          (canonical_readItems (ih depth (Nat.lt_succ_self depth)) (by simp) hread)
    · split at h
      · cases h
      next depth =>
        obtain ⟨⟨members, after⟩, hread, h⟩ := bind_eq_ok.mp h
        cases h
        exact canonical_readMembers (ih depth (Nat.lt_succ_self depth))
          (by simp [Canonical, CanonicalMembers]) hread
    · split at h
      · obtain ⟨_, -, h⟩ := bind_eq_ok.mp h
        cases h
        trivial
      · cases h

/-- Every value that a text stands for is canonical. -/
theorem canonical_of_parse {text : String} {value : Json} (h : parse text = .ok value) :
    Canonical value := by
  obtain ⟨⟨read, rest⟩, hread, h⟩ := bind_eq_ok.mp h
  simp only at h
  split at h
  · cases h
    exact canonical_readValue _ _ _ _ hread
  · cases h

end Json

end WorkspaceLink
