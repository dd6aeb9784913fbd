import PageMigration.Proofs.Run.Answers
import PageMigration.Proofs.Run.FreeName
import PageMigration.Run.Transfer

/-!
# Outcomes of transfers

A transfer keeps its link for one of several reasons, or leads to a copy that is known or that it
writes.  Its result alone does not tell which, since a copy may have the address of the link.  What
is known of copies changes only where a copy is written, and so does the folder, unless the write
breaks off.

## Main definitions

* `Context.Copies` : the conditions under which a file is copied.
* `Run.Keeps` : the reasons to keep a link.
* `Run.LeadsToCopy` : the copies that a transfer leads to.
* `Run.BreaksOff` : what is left of the folder where the write of a copy breaks off.

## Main results

* `Run.Keeps.transfer_eq`, `Run.LeadsToCopy.transfer_fst` : the results.
* `Run.keeps_iff` : a transfer has one outcome or the other.
* `Run.transfer_copies_eq_or` : what is known of copies afterwards.
-/

namespace PageMigration

/-! ### One transfer -/

/-- The conditions under which the file at a path is copied, and the path that its copy is served
from. -/
structure Context.Copies (ctx : Context) (path servedFrom : String) : Prop where
  allowed : (ctx.settings.classify path).isCopied
  crossSite : ctx.isCrossSite
  inside : ctx.source.web.containsPath path
  served : ctx.servedFrom = some servedFrom

theorem Link.lookupPath_trim (link : String) : lookupPath (Text.trim link) = lookupPath link := by
  simp [lookupPath, serverPath]

theorem Link.lookupPath_of_isEmpty {link : String} (h : (Text.trim link).isEmpty) :
    lookupPath link = "" := by
  rw [← lookupPath_trim, String.isEmpty_iff.mp h]
  decide

namespace Run

section

variable {ctx : Context} {link servedFrom : String}

theorem transfer_of_not_copies
    (h : ∀ servedFrom, ¬ ctx.Copies (Link.lookupPath link) servedFrom) (s : RunState) :
    transfer ctx link s = (Text.trim link, s) := by
  unfold transfer
  simp only [Link.lookupPath_trim]
  by_cases hempty : (Text.trim link).isEmpty
  · rw [if_pos hempty, String.isEmpty_iff.mp hempty]
    rfl
  by_cases hallowed : (ctx.settings.classify (Link.lookupPath link)).isCopied
  swap
  · rw [if_neg hempty, if_pos hallowed]
    rfl
  by_cases hcross : ctx.isCrossSite
  swap
  · rw [if_neg hempty, if_neg (not_not.mpr hallowed), if_pos hcross]
    rfl
  by_cases hinside : ctx.source.web.containsPath (Link.lookupPath link)
  swap
  · rw [if_neg hempty, if_neg (not_not.mpr hallowed), if_neg (not_not.mpr hcross), if_pos hinside]
    rfl
  cases hserved : ctx.servedFrom with
  | none =>
      rw [if_neg hempty, if_neg (not_not.mpr hallowed), if_neg (not_not.mpr hcross),
        if_neg (not_not.mpr hinside)]
      rfl
  | some servedFrom => exact absurd ⟨hallowed, hcross, hinside, hserved⟩ (h servedFrom)

theorem transfer_of_copies (h : ctx.Copies (Link.lookupPath link) servedFrom) (s : RunState) :
    transfer ctx link s =
      match s.copies.get? (copyKey (Link.lookupPath link)) with
      | some copy => (copy, s)
      | none =>
          let t := { s with history := .content (Link.lookupPath link) :: s.history }
          match ctx.source.content s.history (Link.lookupPath link) with
          | .ok (some content) =>
              match s.folder.write content (Link.fileName (Link.lookupPath link)) with
              | .ok (folder, name) =>
                  let copy := AssetFolder.location servedFrom name
                  (copy, { t with
                    copies := s.copies.insert (copyKey (Link.lookupPath link)) copy, folder })
              | .error _ =>
                  let name := Link.fileName (Link.lookupPath link)
                  (Text.trim link, { t with folder := s.folder.afterFailure content name })
          | _ => (Text.trim link, t) := by
  have hempty : (Text.trim link).isEmpty = false := by
    rw [Bool.eq_false_iff]
    intro he
    have hallowed := h.allowed
    rw [Link.lookupPath_of_isEmpty he] at hallowed
    cases hallowed
  unfold transfer
  simp only [Link.lookupPath_trim, hempty, h.allowed, h.crossSite, h.inside, h.served, not_true,
    if_false, Bool.false_eq_true]
  simp only [bind, StateT.bind, get, getThe, MonadStateOf.get, StateT.get, pure]
  cases s.copies.get? (copyKey (Link.lookupPath link)) with
  | some copy => rfl
  | none =>
      simp only [StateT.bind]
      rw [content?_apply]
      cases ctx.source.content s.history (Link.lookupPath link) with
      | error e => rfl
      | ok found =>
          cases found with
          | none => rfl
          | some content =>
              simp only [Except.toOption, Option.getD_some, StateT.bind, writeCopy, bind, get,
                getThe, MonadStateOf.get, StateT.get, pure]
              cases s.folder.write content (Link.fileName (Link.lookupPath link)) with
              | error e => rfl
              | ok written => rfl

end

/-! ### Outcomes -/

/-- Why a transfer keeps its link. -/
inductive Keeps (ctx : Context) (link : String) (s : RunState) : Prop
  /-- The extension is refused, or is not listed. -/
  | notCopied (h : (ctx.settings.classify (Link.lookupPath link)).isCopied = false)
  /-- Content stays in its web. -/
  | inPlace (h : ctx.isCrossSite = false)
  /-- The file lies outside the source web. -/
  | outside (h : ctx.source.web.containsPath (Link.lookupPath link) = false)
  /-- There is no folder for copies. -/
  | noFolder (h : ctx.servedFrom = none)
  /-- The source has no content for the file. -/
  | notFound (hnew : s.copies.get? (copyKey (Link.lookupPath link)) = none)
      (h : ctx.source.content s.history (Link.lookupPath link) = .ok none)
  /-- The look-up of the content fails. -/
  | notAnswered (hnew : s.copies.get? (copyKey (Link.lookupPath link)) = none) {e : SourceError}
      (h : ctx.source.content s.history (Link.lookupPath link) = .error e)
  /-- The folder does not take the copy. -/
  | notWritten (hnew : s.copies.get? (copyKey (Link.lookupPath link)) = none) {content : Bytes}
      (hfound : ctx.source.content s.history (Link.lookupPath link) = .ok (some content))
      {e : AssetError}
      (h : s.folder.write content (Link.fileName (Link.lookupPath link)) = .error e)

/-- The address of the copy that a transfer leads to: that of a copy that is known, or of one that
is written. -/
inductive LeadsToCopy (ctx : Context) (link : String) (s : RunState) : String → Prop
  | known {servedFrom copy : String} (hcopies : ctx.Copies (Link.lookupPath link) servedFrom)
      (h : s.copies.get? (copyKey (Link.lookupPath link)) = some copy) : LeadsToCopy ctx link s copy
  | written {servedFrom name : String} {content : Bytes} {folder : AssetFolder}
      (hcopies : ctx.Copies (Link.lookupPath link) servedFrom)
      (hnew : s.copies.get? (copyKey (Link.lookupPath link)) = none)
      (hfound : ctx.source.content s.history (Link.lookupPath link) = .ok (some content))
      (h : s.folder.write content (Link.fileName (Link.lookupPath link)) = .ok (folder, name)) :
      LeadsToCopy ctx link s (AssetFolder.location servedFrom name)

/-- The write of the copy breaks off. -/
structure BreaksOff (ctx : Context) (link : String) (s : RunState) (after : AssetFolder) :
    Prop where
  copied : ∃ servedFrom, ctx.Copies (Link.lookupPath link) servedFrom
  unknown : s.copies.get? (copyKey (Link.lookupPath link)) = none
  part : ∃ content, ctx.source.content s.history (Link.lookupPath link) = .ok (some content) ∧
    s.folder.BreaksOff (Link.fileName (Link.lookupPath link)) content after

section

variable {ctx : Context} {link copy : String} {s : RunState}

/-- A link that is kept comes back without the blanks around it.  What is known of copies stays as
it is, and so does the folder, unless the write of a copy breaks off. -/
theorem Keeps.transfer_eq (h : Keeps ctx link s) : (transfer ctx link s).1 = Text.trim link ∧
    (transfer ctx link s).2.copies = s.copies ∧
      ((transfer ctx link s).2.folder = s.folder ∨
        BreaksOff ctx link s (transfer ctx link s).2.folder) := by
  by_cases hcopies : ∃ servedFrom, ctx.Copies (Link.lookupPath link) servedFrom
  swap
  · rw [transfer_of_not_copies (not_exists.mp hcopies) s]
    exact ⟨rfl, rfl, Or.inl rfl⟩
  obtain ⟨servedFrom, hcopies⟩ := hcopies
  rw [transfer_of_copies hcopies]
  cases h with
  | notCopied h => exact absurd hcopies.allowed (Bool.eq_false_iff.mp h)
  | inPlace h => exact absurd hcopies.crossSite (Bool.eq_false_iff.mp h)
  | outside h => exact absurd hcopies.inside (Bool.eq_false_iff.mp h)
  | noFolder h => cases h.symm.trans hcopies.served
  | notFound hnew h =>
      rw [hnew, h]
      exact ⟨rfl, rfl, Or.inl rfl⟩
  | notAnswered hnew h =>
      rw [hnew, h]
      exact ⟨rfl, rfl, Or.inl rfl⟩
  | notWritten hnew hfound h =>
      rw [hnew, hfound]
      simp only [h, true_and]
      exact (AssetFolder.afterFailure_eq_or h).imp_right fun hpart =>
        ⟨⟨servedFrom, hcopies⟩, hnew, _, hfound, hpart⟩

theorem BreaksOff.limits_ne {after : AssetFolder} (h : BreaksOff ctx link s after) :
    s.folder.limits ≠ [] := by
  obtain ⟨-, -, content, -, name, -, hpart, -⟩ := h
  exact fun hlimits => hpart (AssetFolder.written_of_limits hlimits name content)

/-- Where the write of the copy breaks off, the link is kept, and what was written is left. -/
theorem BreaksOff.transfer_eq {after : AssetFolder} (h : BreaksOff ctx link s after) :
    Keeps ctx link s ∧ (transfer ctx link s).2.folder = after := by
  obtain ⟨⟨servedFrom, hcopies⟩, hnew, content, hfound, hpart⟩ := h
  obtain ⟨hwritten, hafter⟩ := hpart.write_eq
  refine ⟨.notWritten hnew hfound hwritten, ?_⟩
  rw [transfer_of_copies hcopies, hnew, hfound]
  simp only [hwritten, hafter]

/-- A link that is kept leaves a folder without limits as it is. -/
theorem Keeps.folder_eq (h : Keeps ctx link s) (hlimits : s.folder.limits = []) :
    (transfer ctx link s).2.folder = s.folder :=
  h.transfer_eq.2.2.resolve_right fun hpart => hpart.limits_ne hlimits

theorem transfer_of_known {servedFrom : String}
    (hcopies : ctx.Copies (Link.lookupPath link) servedFrom)
    (h : s.copies.get? (copyKey (Link.lookupPath link)) = some copy) :
    transfer ctx link s = (copy, s) := by
  rw [transfer_of_copies hcopies, h]

theorem transfer_of_written {servedFrom name : String} {content : Bytes} {folder : AssetFolder}
    (hcopies : ctx.Copies (Link.lookupPath link) servedFrom)
    (hnew : s.copies.get? (copyKey (Link.lookupPath link)) = none)
    (hfound : ctx.source.content s.history (Link.lookupPath link) = .ok (some content))
    (h : s.folder.write content (Link.fileName (Link.lookupPath link)) = .ok (folder, name)) :
    transfer ctx link s = (AssetFolder.location servedFrom name,
      { s with
        history := .content (Link.lookupPath link) :: s.history
        copies := s.copies.insert (copyKey (Link.lookupPath link))
          (AssetFolder.location servedFrom name)
        folder }) := by
  rw [transfer_of_copies hcopies, hnew, hfound]
  simp only [h]

theorem LeadsToCopy.transfer_fst (h : LeadsToCopy ctx link s copy) :
    (transfer ctx link s).1 = copy := by
  cases h with
  | known hcopies h => rw [transfer_of_known hcopies h]
  | written hcopies hnew hfound h => rw [transfer_of_written hcopies hnew hfound h]

/-- A link is not kept where its copy is known or can be written. -/
theorem LeadsToCopy.not_keeps (h : LeadsToCopy ctx link s copy) : ¬ Keeps ctx link s := by
  obtain ⟨servedFrom, hcopies⟩ : ∃ servedFrom, ctx.Copies (Link.lookupPath link) servedFrom := by
    cases h with
    | known hcopies _ => exact ⟨_, hcopies⟩
    | written hcopies _ _ _ => exact ⟨_, hcopies⟩
  intro hkeeps
  cases hkeeps with
  | notCopied hkept => exact Bool.eq_false_iff.mp hkept hcopies.allowed
  | inPlace hkept => exact Bool.eq_false_iff.mp hkept hcopies.crossSite
  | outside hkept => exact Bool.eq_false_iff.mp hkept hcopies.inside
  | noFolder hkept => cases hkept.symm.trans hcopies.served
  | notFound hnew hkept =>
      cases h with
      | known _ hknown => cases hnew.symm.trans hknown
      | written _ _ hfound _ => cases hkept.symm.trans hfound
  | notAnswered hnew hkept =>
      cases h with
      | known _ hknown => cases hnew.symm.trans hknown
      | written _ _ hfound _ => cases hkept.symm.trans hfound
  | notWritten hnew hcontent hkept =>
      cases h with
      | known _ hknown => cases hnew.symm.trans hknown
      | written _ _ hfound hwritten =>
          cases hcontent.symm.trans hfound
          cases hkept.symm.trans hwritten

theorem keeps_or_leadsToCopy (ctx : Context) (link : String) (s : RunState) :
    Keeps ctx link s ∨ ∃ copy, LeadsToCopy ctx link s copy := by
  by_cases hallowed : (ctx.settings.classify (Link.lookupPath link)).isCopied
  swap
  · exact .inl (.notCopied (Bool.eq_false_iff.mpr hallowed))
  by_cases hcross : ctx.isCrossSite
  swap
  · exact .inl (.inPlace (Bool.eq_false_iff.mpr hcross))
  by_cases hinside : ctx.source.web.containsPath (Link.lookupPath link)
  swap
  · exact .inl (.outside (Bool.eq_false_iff.mpr hinside))
  cases hserved : ctx.servedFrom with
  | none => exact .inl (.noFolder hserved)
  | some servedFrom =>
      have hcopies : ctx.Copies (Link.lookupPath link) servedFrom :=
        ⟨hallowed, hcross, hinside, hserved⟩
      cases hknown : s.copies.get? (copyKey (Link.lookupPath link)) with
      | some copy => exact .inr ⟨copy, .known hcopies hknown⟩
      | none =>
          rcases hfound : ctx.source.content s.history (Link.lookupPath link) with e | _ | content
          · exact .inl (.notAnswered hknown hfound)
          · exact .inl (.notFound hknown hfound)
          · cases hwritten : s.folder.write content (Link.fileName (Link.lookupPath link)) with
            | error e => exact .inl (.notWritten hknown hfound hwritten)
            | ok written => exact .inr ⟨_, .written hcopies hknown hfound hwritten⟩

/-- A transfer keeps its link unless it leads to a copy. -/
theorem keeps_iff : Keeps ctx link s ↔ ∀ copy, ¬ LeadsToCopy ctx link s copy :=
  ⟨fun hkeeps _ hleads => hleads.not_keeps hkeeps, fun h =>
    (keeps_or_leadsToCopy ctx link s).resolve_right (not_exists.mpr h)⟩

/-- What is known of copies stays as it is, unless a transfer leads to a copy that was not known;
that one is known from then on. -/
theorem transfer_copies_eq_or (ctx : Context) (link : String) (s : RunState) :
    (transfer ctx link s).2.copies = s.copies ∨ ∃ copy, LeadsToCopy ctx link s copy ∧
      s.copies.get? (copyKey (Link.lookupPath link)) = none ∧
        (transfer ctx link s).2.copies = s.copies.insert (copyKey (Link.lookupPath link)) copy := by
  rcases keeps_or_leadsToCopy ctx link s with hkeeps | ⟨copy, hleads⟩
  · exact Or.inl hkeeps.transfer_eq.2.1
  cases hleads with
  | known hcopies hknown => exact Or.inl (by rw [transfer_of_known hcopies hknown])
  | written hcopies hnew hfound hwritten =>
      exact Or.inr ⟨_, .written hcopies hnew hfound hwritten, hnew, by
        rw [transfer_of_written hcopies hnew hfound hwritten]⟩

end

end Run

end PageMigration
