/-
# Splitting a key description into characteristics

`SetAuthorizations` walks a key description once: it rejects the tags a client may not supply,
drops the hidden application tags, and routes every other entry to the enforced or the
unenforced set by the implementation's `is_enforced`; then it stamps the creation time and the
origin. `BuildHiddenAuthorizations` collects the application tags and the root of trust that
are bound into a key blob without being stored in it.

The loop is shown equal to a filter description of its result for every description and every
`is_enforced`, which for the software implementation leaves nothing enforced and no hidden tag
in the characteristics.
-/

import Keymaster.Defs

set_option autoImplicit false

namespace Keymaster

/-- What the `switch` of `SetAuthorizations` does with an entry of each tag. -/
inductive TagDisposition
  | reject (error : KeymasterError)
  | hide
  | copy
  deriving DecidableEq, Repr

/-- The cases of the `switch` in `SetAuthorizations`. -/
def tagDisposition : Tag → TagDisposition
  | .rootOfTrust | .origin => .reject .invalidTag
  | .rollbackResistant => .reject .unsupportedTag
  | .applicationId | .applicationData => .hide
  | _ => .copy

/-- `AddAuthorization`: append an entry to the enforced set when `is_enforced` holds of its tag,
otherwise to the unenforced set. -/
def addAuthorization (isEnforced : Tag → Bool) (auth : KeyParam)
    (sets : AuthorizationSet × AuthorizationSet) : AuthorizationSet × AuthorizationSet :=
  if isEnforced auth.tag then (sets.1.pushBack auth, sets.2) else (sets.1, sets.2.pushBack auth)

/-- The loop of `SetAuthorizations` over the key description, returning at the first tag it
rejects. -/
def setAuthorizationsLoop (isEnforced : Tag → Bool) :
    List KeyParam → AuthorizationSet × AuthorizationSet →
      Except KeymasterError (AuthorizationSet × AuthorizationSet)
  | [], sets => .ok sets
  | p :: ps, sets =>
      match tagDisposition p.tag with
      | .reject error => .error error
      | .hide => setAuthorizationsLoop isEnforced ps sets
      | .copy => setAuthorizationsLoop isEnforced ps (addAuthorization isEnforced p sets)

/-- `SetAuthorizations(key_description, origin, &enforced, &unenforced)`, with `now` the
`java_time(time(NULL))` it stamps. Both sets start cleared; their `is_valid()` checks always pass
in the model. -/
def setAuthorizations (isEnforced : Tag → Bool) (keyDescription : AuthorizationSet)
    (origin : KeyOrigin) (now : UInt64) :
    Except KeymasterError (AuthorizationSet × AuthorizationSet) := do
  let sets ← setAuthorizationsLoop isEnforced keyDescription.elems (.empty, .empty)
  let sets := addAuthorization isEnforced (.creationDatetime now) sets
  pure (addAuthorization isEnforced (.origin origin) sets)

/-- `BuildHiddenAuthorizations(input_set, &hidden)`: the first `APPLICATION_ID` and
`APPLICATION_DATA` of the input, when present, then the root of trust. -/
def buildHiddenAuthorizations (rootOfTrust : KeyParam) (inputSet : AuthorizationSet) :
    AuthorizationSet :=
  let hidden : AuthorizationSet := .empty
  let hidden := match inputSet.getTagValue KeyParam.applicationId? with
    | some entry => hidden.pushBack (.applicationId entry)
    | none => hidden
  let hidden := match inputSet.getTagValue KeyParam.applicationData? with
    | some entry => hidden.pushBack (.applicationData entry)
    | none => hidden
  hidden.pushBack rootOfTrust

/-- The hidden set lists the first application identifier and data, where present, and then the
root of trust. -/
theorem buildHiddenAuthorizations_elems (rootOfTrust : KeyParam) (inputSet : AuthorizationSet) :
    (buildHiddenAuthorizations rootOfTrust inputSet).elems =
      (inputSet.getTagValue KeyParam.applicationId?).toList.map .applicationId ++
        (inputSet.getTagValue KeyParam.applicationData?).toList.map .applicationData ++
          [rootOfTrust] := by
  unfold buildHiddenAuthorizations
  cases inputSet.getTagValue KeyParam.applicationId? <;>
    cases inputSet.getTagValue KeyParam.applicationData? <;> rfl

/-- Two sets give the same hidden set exactly when their first application identifiers agree and
their first application data agree, an absent entry matching only an absent one. -/
theorem buildHiddenAuthorizations_eq_iff {rootOfTrust : KeyParam} {s t : AuthorizationSet} :
    buildHiddenAuthorizations rootOfTrust s = buildHiddenAuthorizations rootOfTrust t ↔
      s.getTagValue KeyParam.applicationId? = t.getTagValue KeyParam.applicationId? ∧
        s.getTagValue KeyParam.applicationData? = t.getTagValue KeyParam.applicationData? := by
  rw [AuthorizationSet.ext_iff, buildHiddenAuthorizations_elems, buildHiddenAuthorizations_elems]
  cases s.getTagValue KeyParam.applicationId? <;> cases s.getTagValue KeyParam.applicationData? <;>
    cases t.getTagValue KeyParam.applicationId? <;>
    cases t.getTagValue KeyParam.applicationData? <;> simp

/-! ## The characteristics a description yields -/

/-- The error a key description entry must cause, in the words of the spec: `INVALID_TAG` for a
root of trust or an origin, `UNSUPPORTED_TAG` for rollback resistance. -/
def forbiddenTagError : Tag → Option KeymasterError
  | .rootOfTrust => some .invalidTag
  | .origin => some .invalidTag
  | .rollbackResistant => some .unsupportedTag
  | _ => none

/-- The tags stripped from the characteristics. -/
def isApplicationTag (t : Tag) : Bool := t == .applicationId || t == .applicationData

/-- The characteristics the spec describes: fail with the error of the first forbidden entry;
otherwise drop the application tags, append the creation time and the origin, and split the
result by `is_enforced`, keeping order and duplicates. -/
def describedCharacteristics (isEnforced : Tag → Bool) (keyDescription : AuthorizationSet)
    (origin : KeyOrigin) (now : UInt64) :
    Except KeymasterError (AuthorizationSet × AuthorizationSet) :=
  match keyDescription.elems.findSome? (forbiddenTagError ·.tag) with
  | some error => .error error
  | none =>
      let kept := keyDescription.elems.filter (fun p => !isApplicationTag p.tag) ++
        [.creationDatetime now, .origin origin]
      .ok (⟨kept.filter (isEnforced ·.tag)⟩, ⟨kept.filter (fun p => !isEnforced p.tag)⟩)

/-- `SetAuthorizations` rejects exactly the tags `forbiddenTagError` names, with its error. -/
theorem tagDisposition_reject {t : Tag} {e : KeymasterError} :
    tagDisposition t = .reject e ↔ forbiddenTagError t = some e := by
  cases t <;> simp [tagDisposition, forbiddenTagError, eq_comm]

/-- The hidden tags are the application tags. -/
theorem tagDisposition_hide {t : Tag} : tagDisposition t = .hide ↔ isApplicationTag t := by
  cases t <;> simp [tagDisposition, isApplicationTag]

/-- Every other tag is copied. -/
theorem tagDisposition_copy {t : Tag} :
    tagDisposition t = .copy ↔ forbiddenTagError t = none ∧ isApplicationTag t = false := by
  cases t <;> simp [tagDisposition, forbiddenTagError, isApplicationTag]

/-- Routing entries one by one appends each side's filter. -/
theorem addAuthorization_eq (isEnforced : Tag → Bool) (p : KeyParam)
    (sets : AuthorizationSet × AuthorizationSet) :
    addAuthorization isEnforced p sets =
      (⟨sets.1.elems ++ [p].filter (isEnforced ·.tag)⟩,
        ⟨sets.2.elems ++ [p].filter (fun q => !isEnforced q.tag)⟩) := by
  cases h : isEnforced p.tag <;> simp [addAuthorization, List.filter, AuthorizationSet.pushBack, h]

/-- The loop from any pair of sets: the error of the first forbidden entry, or both sets
extended by the filters of the copied entries. -/
theorem setAuthorizationsLoop_eq (isEnforced : Tag → Bool) (ps : List KeyParam)
    (sets : AuthorizationSet × AuthorizationSet) :
    setAuthorizationsLoop isEnforced ps sets =
      match ps.findSome? (forbiddenTagError ·.tag) with
      | some error => .error error
      | none =>
          let kept := ps.filter (fun p => !isApplicationTag p.tag)
          .ok (⟨sets.1.elems ++ kept.filter (isEnforced ·.tag)⟩,
            ⟨sets.2.elems ++ kept.filter (fun p => !isEnforced p.tag)⟩) := by
  induction ps generalizing sets with
  | nil => simp [setAuthorizationsLoop]
  | cons p ps ih =>
      rw [setAuthorizationsLoop, List.findSome?_cons]
      cases hd : tagDisposition p.tag with
      | reject e => simp [tagDisposition_reject.mp hd]
      | hide =>
          have ⟨hf, ha⟩ : forbiddenTagError p.tag = none ∧ isApplicationTag p.tag := by
            revert hd; cases p.tag <;> simp [tagDisposition, forbiddenTagError, isApplicationTag]
          simp [hf, ha, ih]
      | copy =>
          have ⟨hf, ha⟩ := tagDisposition_copy.mp hd
          simp only [hf, ih, addAuthorization_eq]
          cases h : isEnforced p.tag <;> simp [ha, h, List.filter_cons]

/-- `SetAuthorizations` computes the described characteristics, for every key description,
origin, time and `is_enforced`. -/
theorem setAuthorizations_eq_described (isEnforced : Tag → Bool)
    (keyDescription : AuthorizationSet) (origin : KeyOrigin) (now : UInt64) :
    setAuthorizations isEnforced keyDescription origin now =
      describedCharacteristics isEnforced keyDescription origin now := by
  rw [setAuthorizations, setAuthorizationsLoop_eq, describedCharacteristics]
  cases keyDescription.elems.findSome? (forbiddenTagError ·.tag) with
  | some e => rfl
  | none =>
      simp only [bind, Except.bind, pure, Except.pure, addAuthorization_eq, List.filter_append,
        AuthorizationSet.elems_empty, List.nil_append, List.append_assoc, List.filter_cons,
        List.filter_nil]
      split_ifs <;> rfl

/-- With the software `is_enforced`, which holds of no tag, nothing is enforced and no
application tag or root of trust reaches the characteristics. -/
theorem setAuthorizations_software (keyDescription : AuthorizationSet) (origin : KeyOrigin)
    (now : UInt64) {enforced unenforced : AuthorizationSet}
    (h : setAuthorizations (fun _ => false) keyDescription origin now =
      .ok (enforced, unenforced)) :
    enforced = .empty ∧ ∀ p ∈ unenforced.elems,
      p.tag ≠ .applicationId ∧ p.tag ≠ .applicationData ∧ p.tag ≠ .rootOfTrust := by
  rw [setAuthorizations_eq_described, describedCharacteristics] at h
  cases hf : keyDescription.elems.findSome? (forbiddenTagError ·.tag) with
  | some e => simp [hf] at h
  | none =>
      simp only [hf, Except.ok.injEq, Prod.mk.injEq, List.filter_false, Bool.not_false,
        List.filter_true] at h
      obtain ⟨rfl, rfl⟩ := h
      refine ⟨rfl, fun p hp => ?_⟩
      rcases List.mem_append.mp hp with hp | hp
      · have hrot := List.findSome?_eq_none_iff.mp hf p (List.mem_filter.mp hp).1
        have happ := (List.mem_filter.mp hp).2
        revert hrot happ
        cases p.tag <;> simp [forbiddenTagError, isApplicationTag]
      · simp only [List.mem_cons, List.mem_singleton, List.not_mem_nil, or_false] at hp
        rcases hp with rfl | rfl <;> simp [KeyParam.tag]

/-- Filtering out entries a query ignores leaves its first answer. -/
theorem findSome_filter_of_none {α β : Type} {keep : α → Bool} {read : α → Option β}
    (hread : ∀ a, keep a = false → read a = none) (l : List α) :
    (l.filter keep).findSome? read = l.findSome? read := by
  induction l with
  | nil => rfl
  | cons a l ih =>
      cases hkeep : keep a
      · simp [List.filter_cons, hkeep, List.findSome?_cons, hread a hkeep, ih]
      · simp [List.filter_cons, hkeep, List.findSome?_cons, ih]

/-- The software characteristics enforce nothing and answer every query that ignores the
application tags, the creation time and the origin as the key description does. -/
theorem getTagValue_setAuthorizations_software {α : Type} {read : KeyParam → Option α}
    (hread : ∀ p, isApplicationTag p.tag = true ∨ p.tag = .creationDatetime ∨ p.tag = .origin →
      read p = none)
    {keyDescription : AuthorizationSet} {origin : KeyOrigin} {now : UInt64}
    {enforced unenforced : AuthorizationSet}
    (h : setAuthorizations (fun _ => false) keyDescription origin now =
      .ok (enforced, unenforced)) :
    enforced = .empty ∧ unenforced.getTagValue read = keyDescription.getTagValue read := by
  rw [setAuthorizations_eq_described, describedCharacteristics] at h
  cases hf : keyDescription.elems.findSome? (forbiddenTagError ·.tag) with
  | some e => simp [hf] at h
  | none =>
      simp only [hf, Except.ok.injEq, Prod.mk.injEq, List.filter_false, Bool.not_false,
        List.filter_true] at h
      obtain ⟨rfl, rfl⟩ := h
      refine ⟨rfl, ?_⟩
      have hstamps : [KeyParam.creationDatetime now, .origin origin].findSome? read = none := by
        simp [hread (.creationDatetime now) (.inr (.inl rfl)),
          hread (.origin origin) (.inr (.inr rfl))]
      rw [AuthorizationSet.getTagValue, List.findSome?_append, hstamps, Option.or_none,
        findSome_filter_of_none (fun p hp => hread p (.inl (by simpa using hp)))]
      rfl

/-- A filter that drops every entry a query answers leaves the query no answer. -/
theorem findSome_filter_eq_none {α β : Type} {keep : α → Bool} {read : α → Option β}
    (hread : ∀ a, keep a = true → read a = none) (l : List α) :
    (l.filter keep).findSome? read = none :=
  List.findSome?_eq_none_iff.mpr fun a ha => hread a (List.mem_filter.mp ha).2

/-- Filtering by a property of the tag keeps all or none of what a query reading one tag
answers. -/
theorem findSome_filter_tag {α : Type} {read : KeyParam → Option α} {t : Tag}
    (hread : ∀ p, p.tag ≠ t → read p = none) (keep : Tag → Bool) (l : List KeyParam) :
    (l.filter (keep ·.tag)).findSome? read = if keep t then l.findSome? read else none := by
  split_ifs with hk
  · exact findSome_filter_of_none (fun p hp => hread p fun heq => by simp_all) l
  · exact findSome_filter_eq_none (fun p hp => hread p fun heq => by simp_all) l

/-- A query that reads only entries of one tag, a tag `SetAuthorizations` copies and does not
stamp, finds in the characteristics the description's first answer, for every `is_enforced`: all
entries of the tag land in the same set. `Key(blob)` lists the unenforced entries before the
enforced ones and a blob's `algorithm()` reads the enforced set first; both orders agree. -/
theorem getTagValue_characteristics {α : Type} {read : KeyParam → Option α} {t : Tag}
    (hread : ∀ p, p.tag ≠ t → read p = none) (hcopy : tagDisposition t = .copy)
    (hstamp : t ≠ .creationDatetime) {isEnforced : Tag → Bool}
    {keyDescription : AuthorizationSet} {origin : KeyOrigin} {now : UInt64}
    {enforced unenforced : AuthorizationSet}
    (h : setAuthorizations isEnforced keyDescription origin now = .ok (enforced, unenforced)) :
    (unenforced.pushBackSet enforced).getTagValue read = keyDescription.getTagValue read ∧
      (enforced.getTagValue read).or (unenforced.getTagValue read) =
        keyDescription.getTagValue read := by
  rw [setAuthorizations_eq_described, describedCharacteristics] at h
  cases hf : keyDescription.elems.findSome? (forbiddenTagError ·.tag) with
  | some e => simp [hf] at h
  | none =>
      simp only [hf, Except.ok.injEq, Prod.mk.injEq] at h
      obtain ⟨rfl, rfl⟩ := h
      have horigin : (KeyParam.origin origin).tag ≠ t := fun heq => by
        rw [← heq] at hcopy; cases hcopy
      have hkept : (keyDescription.elems.filter (fun p : KeyParam => !isApplicationTag p.tag) ++
          [KeyParam.creationDatetime now, .origin origin]).findSome? read =
          keyDescription.elems.findSome? read := by
        rw [List.findSome?_append, findSome_filter_tag hread (!isApplicationTag ·),
          (tagDisposition_copy.mp hcopy).2]
        simp [hread (.creationDatetime now) (Ne.symm hstamp), hread _ horigin]
      rw [AuthorizationSet.getTagValue_pushBackSet]
      simp only [AuthorizationSet.getTagValue]
      rw [findSome_filter_tag hread (!isEnforced ·), findSome_filter_tag hread isEnforced, hkept]
      cases isEnforced t <;> simp

/-- `SetAuthorizations` fails exactly on a description holding a root of trust, an origin or
rollback resistance, with the error of the first such entry; otherwise both characteristics are
the description without its application tags, followed by the creation time and the origin,
split by `is_enforced` in order with duplicates kept. With the software `is_enforced` nothing is
enforced and no application tag or root of trust is returned. -/
theorem setAuthorizations_characteristics (isEnforced : Tag → Bool)
    (keyDescription : AuthorizationSet) (origin : KeyOrigin) (now : UInt64) :
    setAuthorizations isEnforced keyDescription origin now =
        describedCharacteristics isEnforced keyDescription origin now ∧
      ∀ enforced unenforced,
        setAuthorizations (fun _ => false) keyDescription origin now = .ok (enforced, unenforced) →
        enforced = .empty ∧ ∀ p ∈ unenforced.elems,
          p.tag ≠ .applicationId ∧ p.tag ≠ .applicationData ∧ p.tag ≠ .rootOfTrust :=
  ⟨setAuthorizations_eq_described isEnforced keyDescription origin now,
    fun _ _ h => setAuthorizations_software keyDescription origin now h⟩

/-- The test description of an RSA signing key with a client identifier: the identifier is
dropped and the software implementation enforces nothing. -/
theorem setAuthorizations_characteristics_rsa :
    (AuthorizationSet.empty : AuthorizationSet) = .empty ∧
      ∀ p ∈ [KeyParam.algorithm .rsa, .keySize 256, .purpose .sign, .creationDatetime 0,
        .origin .software],
        p.tag ≠ .applicationId ∧ p.tag ≠ .applicationData ∧ p.tag ≠ .rootOfTrust :=
  (setAuthorizations_characteristics (fun _ => false)
    ⟨[.algorithm .rsa, .keySize 256, .purpose .sign, .applicationId [97, 112, 112]]⟩
    .software 0).2 .empty
    ⟨[.algorithm .rsa, .keySize 256, .purpose .sign, .creationDatetime 0, .origin .software]⟩
    rfl

end Keymaster
