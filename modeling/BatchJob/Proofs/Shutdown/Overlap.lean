import BatchJob.Shutdown.Overlap

/-!
# The flag and the wake byte under overlapping calls

The flag and the byte are two pieces of state, and a post that falls whole between the two steps of a rearm leaves
them apart for good: its byte is drained with the old one and its flag stays, so that the posts after it write no
byte (`nested_post_is_lost`, `silent_when_posted`).

That is the only way, with its mirror image of a rearm that falls whole between the two steps of a post. While no
call lies inside one of the other kind, whatever else overlaps, the flag is up exactly if the descriptor is readable
whenever no call is in progress, and the pipe holds one byte at most. What carries this is an order among the calls
in progress (`Ordered`): between two posts that have a byte to write there is a rearm, and a byte in the pipe is one
that a rearm has still to take when a post is about to write.

Main statement: `agrees_unless_nested`.
-/

namespace BatchJob.Overlap

/-! ## Calls that do not overlap -/

/-- The two steps of a post in a row are a post. -/
theorem run_post (signal : ShutdownSignal) :
    ({ signal } : Overlap).run [.swap, .write 0] = { signal := signal.post, begun := 1 } := by
  obtain ⟨posted, bytes⟩ := signal
  cases posted <;> rfl

/-- The two steps of a rearm in a row are a rearm. -/
theorem run_rearm (signal : ShutdownSignal) :
    ({ signal } : Overlap).run [.clear, .drain 0] = { signal := signal.rearm, begun := 1 } := rfl

/-! ## The invariant -/

/-- What is known about the calls in progress while none lies inside one of the other kind. -/
structure Ordered (o : Overlap) : Prop where
  posts_begun : ∀ post ∈ o.posts, post < o.begun
  rearms_begun : ∀ rearm ∈ o.rearms, rearm < o.begun
  posts_nodup : o.posts.Nodup
  /-- A flag that is down was cleared after every post that has still to write. -/
  cleared : o.signal.posted = false → ∀ post ∈ o.posts, ∃ rearm ∈ o.rearms, post < rearm
  /-- A byte under a flag that is down has still to be drained. -/
  stale : o.signal.posted = false → o.signal.wakeBytes ≠ 0 → o.rearms ≠ []
  /-- A flag that is up has its byte, or the post that raised it has still to write. -/
  announced : o.signal.posted = true →
    (∃ post ∈ o.posts, ∀ rearm ∈ o.rearms, rearm < post) ∨ (o.rearms = [] ∧ o.signal.wakeBytes ≠ 0)
  /-- Between two posts that have still to write, a rearm began that has still to drain. -/
  apart : ∀ post ∈ o.posts, ∀ later ∈ o.posts, post < later → ∃ rearm ∈ o.rearms, post < rearm ∧ rearm < later
  /-- A byte that is there when a post has still to write is to be drained first. -/
  alone : o.signal.wakeBytes ≠ 0 → ∀ post ∈ o.posts, ∃ rearm ∈ o.rearms, rearm < post
  bounded : o.signal.wakeBytes ≤ 1

namespace Ordered

variable {o : Overlap}

/-- A fresh signal. -/
theorem fresh : Ordered {} where
  posts_begun := nofun
  rearms_begun := nofun
  posts_nodup := List.nodup_nil
  cleared := nofun
  stale := fun _ h => absurd rfl h
  announced := nofun
  apart := nofun
  alone := nofun
  bounded := Nat.zero_le 1

theorem swap (h : o.Ordered) : (o.advance .swap).Ordered := by
  unfold advance ShutdownSignal.swapPosted
  cases hposted : o.signal.posted with
  | true =>
    -- the flag was up, and the post is over
    simp only [if_true]
    refine { posts_begun := ?_, rearms_begun := ?_, posts_nodup := h.posts_nodup, cleared := nofun, stale := nofun,
             announced := fun _ => h.announced hposted, apart := h.apart, alone := h.alone, bounded := h.bounded }
    · exact fun post hpost => Nat.lt_succ_of_lt (h.posts_begun post hpost)
    · exact fun rearm hrearm => Nat.lt_succ_of_lt (h.rearms_begun rearm hrearm)
  | false =>
    simp only [Bool.false_eq_true, if_false]
    have hfresh : o.begun ∉ o.posts := fun hmem => Nat.lt_irrefl _ (h.posts_begun _ hmem)
    refine { posts_begun := ?_, rearms_begun := ?_, posts_nodup := List.nodup_cons.mpr ⟨hfresh, h.posts_nodup⟩,
             cleared := nofun, stale := nofun, announced := ?_, apart := ?_, alone := ?_, bounded := h.bounded }
    · intro post hpost
      rcases List.mem_cons.mp hpost with rfl | hpost
      · exact Nat.lt_succ_self _
      · exact Nat.lt_succ_of_lt (h.posts_begun post hpost)
    · exact fun rearm hrearm => Nat.lt_succ_of_lt (h.rearms_begun rearm hrearm)
    · exact fun _ => .inl ⟨o.begun, List.mem_cons_self, h.rearms_begun⟩
    · intro post hpost later hlater hlt
      rcases List.mem_cons.mp hlater with rfl | hlater
      · -- the flag was cleared since the earlier post
        rcases List.mem_cons.mp hpost with rfl | hpost
        · exact absurd hlt (Nat.lt_irrefl _)
        · obtain ⟨rearm, hrearm, hafter⟩ := h.cleared hposted post hpost
          exact ⟨rearm, hrearm, hafter, h.rearms_begun rearm hrearm⟩
      · rcases List.mem_cons.mp hpost with rfl | hpost
        · exact absurd (h.posts_begun later hlater) (Nat.lt_asymm hlt)
        · exact h.apart post hpost later hlater hlt
    · intro hbytes post hpost
      rcases List.mem_cons.mp hpost with rfl | hpost
      · obtain ⟨rearm, hrearm⟩ := List.exists_mem_of_ne_nil _ (h.stale hposted hbytes)
        exact ⟨rearm, hrearm, h.rearms_begun rearm hrearm⟩
      · exact h.alone hbytes post hpost

theorem clear (h : o.Ordered) : (o.advance .clear).Ordered where
  posts_begun := fun post hpost => Nat.lt_succ_of_lt (h.posts_begun post hpost)
  rearms_begun := by
    intro rearm hrearm
    rcases List.mem_cons.mp hrearm with rfl | hrearm
    · exact Nat.lt_succ_self _
    · exact Nat.lt_succ_of_lt (h.rearms_begun rearm hrearm)
  posts_nodup := h.posts_nodup
  cleared := fun _ post hpost => ⟨o.begun, List.mem_cons_self, h.posts_begun post hpost⟩
  stale := fun _ _ => List.cons_ne_nil _ _
  announced := nofun
  apart := by
    intro post hpost later hlater hlt
    obtain ⟨rearm, hrearm, hbetween⟩ := h.apart post hpost later hlater hlt
    exact ⟨rearm, List.mem_cons_of_mem _ hrearm, hbetween⟩
  alone := by
    intro hbytes post hpost
    obtain ⟨rearm, hrearm, hbefore⟩ := h.alone hbytes post hpost
    exact ⟨rearm, List.mem_cons_of_mem _ hrearm, hbefore⟩
  bounded := h.bounded

theorem write (h : o.Ordered) {post : Nat} (hpost : post ∈ o.posts) (unnested : ¬ o.Nests (.write post)) :
    Ordered { o with signal := o.signal.writeWake, posts := o.posts.erase post } := by
  -- every rearm in progress began after this post
  have hlater : ∀ rearm ∈ o.rearms, ¬ rearm < post := fun rearm hrearm hlt => unnested ⟨rearm, hrearm, hlt⟩
  have hempty : o.signal.wakeBytes = 0 := by
    refine Decidable.byContradiction fun hbytes => ?_
    obtain ⟨rearm, hrearm, hbefore⟩ := h.alone hbytes post hpost
    exact hlater rearm hrearm hbefore
  have hone : o.signal.writeWake.wakeBytes = 1 := by
    unfold ShutdownSignal.writeWake
    rw [hempty]
    rfl
  have hrest : ∀ other ∈ o.posts.erase post, other ∈ o.posts ∧ other ≠ post := fun other hother =>
    ⟨List.mem_of_mem_erase hother, fun heq => h.posts_nodup.not_mem_erase (heq ▸ hother)⟩
  refine { posts_begun := ?_, rearms_begun := h.rearms_begun, posts_nodup := h.posts_nodup.erase post,
           cleared := ?_, stale := ?_, announced := ?_, apart := ?_, alone := ?_, bounded := Nat.le_of_eq hone }
  · exact fun other hother => h.posts_begun other (hrest other hother).1
  · exact fun hposted other hother => h.cleared hposted other (hrest other hother).1
  · intro hposted _ hnil
    obtain ⟨rearm, hrearm, -⟩ := h.cleared hposted post hpost
    rw [hnil] at hrearm
    cases hrearm
  · intro hposted
    rcases h.announced hposted with ⟨other, hother, hlast⟩ | ⟨hnil, hbytes⟩
    · by_cases heq : other = post
      · -- the post that raised the flag has written its byte, and no rearm is left
        subst heq
        refine .inr ⟨List.eq_nil_iff_forall_not_mem.mpr fun rearm hrearm => ?_, by rw [hone]; decide⟩
        exact hlater rearm hrearm (hlast rearm hrearm)
      · exact .inl ⟨other, (List.mem_erase_of_ne heq).mpr hother, hlast⟩
    · exact absurd hempty hbytes
  · exact fun other hother later hmem => h.apart other (hrest other hother).1 later (hrest later hmem).1
  · intro _ other hother
    obtain ⟨hmem, hne⟩ := hrest other hother
    rcases Nat.lt_or_gt_of_ne hne with hlt | hgt
    · obtain ⟨rearm, hrearm, -, hbefore⟩ := h.apart other hmem post hpost hlt
      exact absurd hbefore (hlater rearm hrearm)
    · obtain ⟨rearm, hrearm, -, hbefore⟩ := h.apart post hpost other hmem hgt
      exact ⟨rearm, hrearm, hbefore⟩

theorem drain (h : o.Ordered) {rearm : Nat} (hrearm : rearm ∈ o.rearms) (unnested : ¬ o.Nests (.drain rearm)) :
    Ordered { o with signal := o.signal.drainWake, rearms := o.rearms.erase rearm } := by
  -- every post that has still to write began after this rearm
  have hlater : ∀ post ∈ o.posts, ¬ post < rearm := fun post hpost hlt => unnested ⟨post, hpost, hlt⟩
  have hkept : ∀ other ∈ o.rearms, ∀ post ∈ o.posts, post < other → other ∈ o.rearms.erase rearm := by
    intro other hother post hpost hlt
    refine (List.mem_erase_of_ne ?_).mpr hother
    rintro rfl
    exact hlater post hpost hlt
  refine { posts_begun := h.posts_begun, rearms_begun := ?_, posts_nodup := h.posts_nodup, cleared := ?_,
           stale := fun _ hbytes => absurd rfl hbytes, announced := ?_, apart := ?_,
           alone := fun hbytes => absurd rfl hbytes, bounded := Nat.zero_le 1 }
  · exact fun other hother => h.rearms_begun other (List.mem_of_mem_erase hother)
  · intro hposted post hpost
    obtain ⟨other, hother, hlt⟩ := h.cleared hposted post hpost
    exact ⟨other, hkept other hother post hpost hlt, hlt⟩
  · intro hposted
    rcases h.announced hposted with ⟨post, hpost, hlast⟩ | ⟨hnil, -⟩
    · exact .inl ⟨post, hpost, fun other hother => hlast other (List.mem_of_mem_erase hother)⟩
    · rw [hnil] at hrearm
      cases hrearm
  · intro post hpost later hmem hlt
    obtain ⟨other, hother, hafter, hbefore⟩ := h.apart post hpost later hmem hlt
    exact ⟨other, hkept other hother post hpost hafter, hafter, hbefore⟩

/-- A step that ends no nested call keeps the order. -/
theorem advance (h : o.Ordered) (step : Step) (unnested : ¬ o.Nests step) : (o.advance step).Ordered := by
  cases step with
  | swap => exact h.swap
  | write post =>
    show Ordered (if post ∈ o.posts then _ else o)
    split
    next hpost => exact h.write hpost unnested
    next => exact h
  | clear => exact h.clear
  | drain rearm =>
    show Ordered (if rearm ∈ o.rearms then _ else o)
    split
    next hrearm => exact h.drain hrearm unnested
    next => exact h

/-- So does a whole run without nested calls. -/
theorem run (h : o.Ordered) {steps : List Step} (unnested : o.Unnested steps) : (o.run steps).Ordered := by
  induction steps generalizing o with
  | nil => exact h
  | cons step steps ih => exact ih (h.advance step unnested.1) unnested.2

/-- When no call is in progress, the flag and the byte agree. -/
theorem agrees (h : o.Ordered) (quiet : o.Quiet) : o.signal.isReadable = o.signal.posted := by
  unfold ShutdownSignal.isReadable
  cases hposted : o.signal.posted with
  | false =>
    have hempty : o.signal.wakeBytes = 0 :=
      Decidable.byContradiction fun hbytes => h.stale hposted hbytes quiet.2
    rw [hempty]
    rfl
  | true =>
    rcases h.announced hposted with ⟨post, hpost, -⟩ | ⟨-, hbytes⟩
    · rw [quiet.1] at hpost
      cases hpost
    · exact decide_eq_true (Nat.pos_of_ne_zero hbytes)

end Ordered

/-! ## Main statements -/

/-- **However posts and rearms overlap, as long as none takes both its steps between the two steps of one of the
other kind, the wake pipe holds one byte at most, and whenever no call is in progress the descriptor is readable
exactly if the signal is posted.** -/
theorem agrees_unless_nested {steps : List Step} (unnested : ({} : Overlap).Unnested steps) :
    (({} : Overlap).run steps).signal.wakeBytes ≤ 1 ∧
      ((({} : Overlap).run steps).Quiet →
        (({} : Overlap).run steps).signal.isReadable = (({} : Overlap).run steps).signal.posted) := by
  have hordered := Ordered.fresh.run unnested
  exact ⟨hordered.bounded, hordered.agrees⟩

/-- A rearm that begins during a post and ends after it: the byte of the post is drained, and its flag was cleared. -/
theorem agrees_unless_nested_overlap :
    (({} : Overlap).run [.swap, .clear, .write 0, .drain 1]).signal.isReadable = false := by
  have hunnested : ({} : Overlap).Unnested [.swap, .clear, .write 0, .drain 1] := by
    refine ⟨nofun, nofun, ?_, ?_, trivial⟩
    · rintro ⟨rearm, hmem, hlt⟩
      cases hlt
    · rintro ⟨post, hmem, hlt⟩
      cases hmem
  exact (agrees_unless_nested hunnested).2 ⟨rfl, rfl⟩

/-- **A post that the handler makes between the two steps of a rearm is lost**: the signal is posted when both calls
are over, but the descriptor is not readable. -/
theorem nested_post_is_lost :
    (({} : Overlap).run [.clear, .swap, .write 1, .drain 0]).Quiet ∧
      (({} : Overlap).run [.clear, .swap, .write 1, .drain 0]).signal = { posted := true, wakeBytes := 0 } :=
  ⟨⟨rfl, rfl⟩, rfl⟩

/-- Nor do the posts after it make it readable: a post that finds the flag up does nothing. -/
theorem silent_when_posted {signal : ShutdownSignal} (posted : signal.posted = true) : signal.post = signal := by
  unfold ShutdownSignal.post ShutdownSignal.swapPosted
  rw [posted]
  obtain ⟨_, bytes⟩ := signal
  cases posted
  rfl

end BatchJob.Overlap
