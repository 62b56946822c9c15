import ServerGame.Lib.Runs

/-!
# Tokens of a list

The runs of a list in order. They are the only tokens it can be written from
with separators in front of them, between them and behind them.
-/

namespace ServerGame.Lib

variable {α : Type*} {p : α → Bool} {list before token rest : List α} {found : List (List α)}
  {sep : α}

/-- The pieces of a list that have elements. -/
def tokens (p : α → Bool) (list : List α) : List (List α) :=
  (list.splitOnP p).filter (!·.isEmpty)

structure IsToken (p : α → Bool) (token : List α) : Prop where
  ne_nil : token ≠ []
  free : ∀ a ∈ token, p a = false

/-- The ways of writing tokens: there is at least one separator between two of
them. -/
inductive Written (p : α → Bool) : List (List α) → List α → Prop
  | blank {after : List α} (hafter : ∀ a ∈ after, p a = true) : Written p [] after
  | token {before token rest : List α} {found : List (List α)}
      (hbefore : ∀ a ∈ before, p a = true) (htoken : IsToken p token)
      (hends : ∀ a ∈ rest.head?, p a = true) (h : Written p found rest) :
      Written p (token :: found) (before ++ (token ++ rest))

-- ---------------------------------------------------------------------------
-- The front of a list
-- ---------------------------------------------------------------------------

@[simp] theorem tokens_nil : tokens p [] = [] := by simp [tokens]

theorem tokens_of_free (hne : token ≠ []) (hfree : ∀ a ∈ token, p a = false) :
    tokens p token = [token] := by
  simp [tokens, List.splitOnP_eq_singleton hfree, hne]

theorem tokens_cons (hsep : p sep = true) : tokens p (sep :: rest) = tokens p rest := by
  have h := @List.splitOnP_append_cons_of_forall_mem α p [] (by simp) sep hsep rest
  rw [List.nil_append] at h
  simp [tokens, h]

theorem tokens_append_cons (htoken : IsToken p token) (hsep : p sep = true) :
    tokens p (token ++ sep :: rest) = token :: tokens p rest := by
  have h := List.splitOnP_append_cons_of_forall_mem htoken.free sep hsep rest
  simp [tokens, h, htoken.ne_nil]

theorem tokens_append_of_separators (hbefore : ∀ a ∈ before, p a = true) :
    tokens p (before ++ rest) = tokens p rest := by
  induction before with
  | nil => rfl
  | cons sep before ih =>
    rw [List.cons_append, tokens_cons (hbefore sep (by simp))]
    exact ih fun a ha => hbefore a (by simp [ha])

theorem tokens_append (htoken : IsToken p token) (hends : ∀ a ∈ rest.head?, p a = true) :
    tokens p (token ++ rest) = token :: tokens p rest := by
  cases rest with
  | nil => simp [tokens_of_free htoken.ne_nil htoken.free]
  | cons sep rest =>
    have hsep : p sep = true := hends sep rfl
    rw [tokens_append_cons htoken hsep, tokens_cons hsep]

-- ---------------------------------------------------------------------------
-- Ways of writing
-- ---------------------------------------------------------------------------

theorem Written.cons (hsep : p sep = true) (h : Written p found list) :
    Written p found (sep :: list) := by
  cases h with
  | blank hafter => exact .blank (by simpa [hsep] using hafter)
  | token hbefore htoken hends h =>
    rw [← List.cons_append]
    exact .token (by simpa [hsep] using hbefore) htoken hends h

theorem written_tokens (p : α → Bool) (list : List α) : Written p (tokens p list) list := by
  induction list using cutInduction p with
  | free list hfree =>
    by_cases hne : list = []
    · subst hne
      exact .blank (by simp)
    · rw [tokens_of_free hne hfree]
      simpa using @Written.token α p [] list [] [] (by simp) ⟨hne, hfree⟩ (by simp)
        (.blank (by simp))
  | cut first sep rest hfirst hsep ih =>
    by_cases hne : first = []
    · subst hne
      rw [List.nil_append, tokens_cons hsep]
      exact ih.cons hsep
    · rw [tokens_append_cons ⟨hne, hfirst⟩ hsep]
      exact @Written.token α p [] first (sep :: rest) _ (by simp) ⟨hne, hfirst⟩
        (by simpa using hsep) (ih.cons hsep)

theorem Written.tokens_eq (h : Written p found list) : tokens p list = found := by
  induction h with
  | @blank after hafter =>
    have hnone := @tokens_append_of_separators α p after [] hafter
    simpa using hnone
  | token hbefore htoken hends h ih =>
    rw [tokens_append_of_separators hbefore, tokens_append htoken hends, ih]

theorem tokens_eq_iff : tokens p list = found ↔ Written p found list := by
  constructor
  · rintro rfl
    exact written_tokens p list
  · exact Written.tokens_eq

theorem Written.isToken (h : Written p found list) : ∀ token ∈ found, IsToken p token := by
  induction h with
  | blank hafter => simp
  | token hbefore htoken hends h ih => simpa [htoken] using ih

theorem Written.flatten (h : Written p found list) : found.flatten = list.filter (!p ·) := by
  induction h with
  | blank hafter => exact (List.filter_eq_nil_iff.mpr (by simpa using hafter)).symm
  | @token before token rest found hbefore htoken hends h ih =>
    have hseps : before.filter (!p ·) = [] := by simpa [List.filter_eq_nil_iff] using hbefore
    have hfree : token.filter (!p ·) = token := by
      simpa [List.filter_eq_self] using htoken.free
    simp [ih, hseps, hfree]

theorem mem_tokens_iff : token ∈ tokens p list ↔ Run p list token := by
  simp only [tokens, List.mem_filter, mem_splitOnP_iff, Bool.not_eq_true',
    List.isEmpty_eq_false_iff]
  exact ⟨fun ⟨hpiece, hne⟩ => ⟨hpiece, hne⟩, fun hrun => ⟨hrun.toPiece, hrun.ne_nil⟩⟩

theorem written_of_pieces {pieces : List (List α × List α)} {after : List α}
    (hpieces : ∀ piece ∈ pieces, (∀ a ∈ piece.1, p a = true) ∧ IsToken p piece.2)
    (hbetween : ∀ piece ∈ pieces.tail, piece.1 ≠ []) (hafter : ∀ a ∈ after, p a = true) :
    Written p (pieces.map Prod.snd)
      (pieces.flatMap (fun piece => piece.1 ++ piece.2) ++ after) := by
  induction pieces with
  | nil => exact .blank hafter
  | cons piece pieces ih =>
    obtain ⟨hbefore, htoken⟩ := hpieces piece (by simp)
    have hrest := ih (fun piece h => hpieces piece (by simp [h]))
      fun piece h => hbetween piece (List.mem_of_mem_tail h)
    have hends : ∀ a ∈ (pieces.flatMap (fun piece => piece.1 ++ piece.2) ++ after).head?,
        p a = true := by
      cases pieces with
      | nil => exact fun a ha => hafter a (List.mem_of_head? ha)
      | cons next pieces =>
        obtain ⟨b, bs, hb⟩ := List.exists_cons_of_ne_nil (hbetween next (by simp))
        have hsep := (hpieces next (by simp)).1 b (by simp [hb])
        simp [hb, hsep]
    simpa using Written.token hbefore htoken hends hrest

end ServerGame.Lib
