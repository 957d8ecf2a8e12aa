import Rustation.Cpu.Exceptions

/-!
The interrupt law: a step in which an interrupt is active enters that exception
and nothing else, after the effect of a coprocessor 2 instruction and instead of
any other one.

* `irqActive_fetched`: the interrupt is still active when it is tested for,
  since a synchronisation and a fetch only assert interrupts;
* `interruptLaw_iff`: the law holds for every instruction but those of
  coprocessor 1, which are executed and enter an exception of their own, and
  those of coprocessor 2, which are not executed.  The source tests for one
  coprocessor in place of the other.
-/

namespace Rustation

open Fallible

namespace Cpu

variable {δ : Type} {dev : Devices δ} {i : Instruction} {c c' c1 c2 : Cpu δ}
  {sh sh' sh1 sh2 : SharedState}

/-! ### The law -/

/-- The interrupt law for a step from `c` to `c'` and the shared state `sh'`, the
instruction `i` being executed, if at all, in the states `p` and `s`. -/
structure InterruptLaw (dev : Devices δ) (i : Instruction) (p : Cpu δ) (s : SharedState)
    (c c' : Cpu δ) (sh' : SharedState) : Prop where
  /-- exactly one exception is entered -/
  once : c'.entered = .interrupt :: c.entered
  sr : c'.cop0.sr = Cop0.pushMode c.cop0.sr
  /-- bits 6 to 2 of CAUSE -/
  code : c'.cop0.cause &&& 0x7c#32 = Exception.interrupt.code <<< 2
  epc : c'.cop0.epc = if c.branch then c.pc - 4 else c.pc
  /-- bit 31 of CAUSE -/
  delay : c'.cop0.cause.getLsbD 31 = c.branch
  /-- the effect of the instruction comes first, the time it takes included -/
  gte : i.opcode = .cop2 → ∃ d s', decodeAndExecute dev i p s = .ok (d, s') ∧
    c' = d.exception .interrupt ∧ sh' = s'.tick 1
  others : i.opcode ≠ .cop2 → c'.regs = c.regs ∧ c'.hi = c.hi ∧ c'.lo = c.lo ∧ c'.gte = c.gte ∧
    c'.inter = { c.inter with devices := c'.inter.devices }

/-! ### Up to the interrupt -/

/-- The state in which the interrupt is tested for. -/
lemma fetched_frame (hsync : c.syncPeripherals dev sh = .ok (c1, sh1))
    (hfetch : fetchInstruction dev { c1 with currentPc := c1.pc } sh1 = .ok (i, c2, sh2)) :
    c2 = { c with icache := c2.icache, inter := c2.inter, currentPc := c.pc } ∧
      c.inter.Serviced sh c2.inter sh2 := by
  obtain ⟨hc1, hserviced⟩ := syncPeripherals_frame hsync
  obtain ⟨hc2, hserviced'⟩ := fetchInstruction_frame hfetch
  refine ⟨?_, hserviced.trans hserviced'⟩
  rw [hc2, hc1]

lemma irqActive_fetched (hirq : c.cop0.irqActive sh.irqState = true)
    (hsync : c.syncPeripherals dev sh = .ok (c1, sh1))
    (hfetch : fetchInstruction dev { c1 with currentPc := c1.pc } sh1 = .ok (i, c2, sh2)) :
    c2.advance.cop0.irqActive sh2.irqState = true := by
  obtain ⟨hc2, hserviced⟩ := fetched_frame hsync hfetch
  have hcop0 : c2.advance.cop0 = c.cop0 := by rw [hc2]; rfl
  rw [hcop0]
  exact Cop0.irqActive_mono hirq hserviced.active

lemma runNextInstruction_fetched (haligned : c.pc.toNat % 4 = 0)
    (hsync : c.syncPeripherals dev sh = .ok (c1, sh1))
    (hfetch : fetchInstruction dev { c1 with currentPc := c1.pc } sh1 = .ok (i, c2, sh2)) :
    runNextInstruction dev c sh = dispatch dev i c2.advance sh2 := by
  have hpc : c1.pc.toNat % 4 = 0 := by
    rw [(syncPeripherals_frame hsync).1]
    exact haligned
  simp only [runNextInstruction, hsync, ok_bind, hpc, hfetch, ne_eq, not_true_eq_false, if_false]

/-! ### The interrupt -/

/-- An instruction of coprocessor 2 takes one cycle, so one that has not been
executed can be told from one that has. -/
lemma tick_ne_of_cop2 {p d : Cpu δ} {s s' : SharedState} (hop : i.opcode = .cop2)
    (h : decodeAndExecute dev i p s = .ok (d, s')) : s.tick 1 ≠ s'.tick 1 := by
  unfold decodeAndExecute at h
  rw [hop] at h
  have hs' : s' = s.tick 1 :=
    of_bind_pure (P := fun x : Cpu δ × SharedState => x.2 = s.tick 1) h fun _ => rfl
  intro heq
  have hnow : s.tk.now + 1 = s.tk.now + 1 + 1 := by
    have := congrArg (fun sh => sh.tk.now) heq
    rwa [hs'] at this
  simp at hnow

/-- An interrupt that is taken in place of the instruction. -/
lemma interruptLaw_exception_iff {p : Cpu δ} {s : SharedState} {icache : Fin 0x100 → ICacheLine}
    {inter : Interconnect δ}
    (hp : p = advance { c with icache := icache, inter := inter, currentPc := c.pc })
    (hinter : inter = { c.inter with devices := inter.devices }) :
    InterruptLaw dev i p s c (p.exception .interrupt) (s.tick 1) ↔ i.opcode ≠ .cop2 := by
  constructor
  · intro hlaw hop
    obtain ⟨d, s', hrun, -, htick⟩ := hlaw.gte hop
    exact tick_ne_of_cop2 hop hrun htick
  · intro hop
    subst hp
    exact {
      once := rfl
      sr := Cop0.enterException_sr ..
      code := Cop0.enterException_code ..
      epc := Cop0.enterException_epc ..
      delay := Cop0.enterException_delay ..
      gte := fun h => absurd h hop
      others := fun _ => ⟨rfl, rfl, rfl, rfl, hinter⟩ }

/-- **The interrupt law.**  It holds if and only if the fetched instruction is
one of neither coprocessor 1 nor coprocessor 2. -/
theorem interruptLaw_iff (haligned : c.pc.toNat % 4 = 0)
    (hirq : c.cop0.irqActive sh.irqState = true)
    (hsync : c.syncPeripherals dev sh = .ok (c1, sh1))
    (hfetch : fetchInstruction dev { c1 with currentPc := c1.pc } sh1 = .ok (i, c2, sh2)) :
    ∃ c' sh', runNextInstruction dev c sh = .ok (c', sh') ∧
      (InterruptLaw dev i c2.advance (countInterrupt sh2) c c' sh' ↔
        i.opcode ≠ .cop1 ∧ i.opcode ≠ .cop2) := by
  have hirq' : c2.advance.cop0.irqActive sh2.irqState = true := irqActive_fetched hirq hsync hfetch
  obtain ⟨hc2, hserviced⟩ := fetched_frame hsync hfetch
  rw [runNextInstruction_fetched haligned hsync hfetch]
  by_cases hop : i.opcode = .cop1
  · refine ⟨_, _, dispatch_irq_cop1 hirq' hop, ?_⟩
    simp only [hop, ne_eq, not_true_eq_false, false_and, iff_false]
    intro hlaw
    -- the coprocessor error is entered below the interrupt
    have hent : .coprocessorError :: c2.entered = c.entered := List.tail_eq_of_cons_eq hlaw.once
    rw [hc2] at hent
    exact List.cons_ne_self _ _ hent
  · refine ⟨_, _, dispatch_irq hirq' hop, ?_⟩
    rw [interruptLaw_exception_iff (congrArg advance hc2) hserviced.memory]
    exact (and_iff_right hop).symm

/-- A CPU with an active software interrupt, about to execute the first word of
its BIOS. -/
def interrupted (words : List U32) : Cpu Unit :=
  { booted words with cop0 := ⟨0x101, 0x100, 0⟩ }

/-- The interrupt takes the place of `addu $2, $1, $0`. -/
theorem interruptLaw_iff_addu : ∃ p s c' sh',
    runNextInstruction .idle (interrupted [0x00201021]) .new = .ok (c', sh') ∧
      InterruptLaw .idle ⟨0x00201021⟩ p s (interrupted [0x00201021]) c' sh' := by
  obtain ⟨⟨c1, s1⟩, hsync, hrest⟩ := bind_eq_ok.mp
    (show ((interrupted [0x00201021]).syncPeripherals .idle .new >>= fun x =>
        fetchInstruction .idle { x.1 with currentPc := x.1.pc } x.2 >>= fun y => pure y.1) =
      .ok ⟨0x00201021⟩ by decide +kernel)
  obtain ⟨⟨i, c2, s2⟩, hfetch, hi⟩ := bind_eq_ok.mp hrest
  injection hi with hi
  dsimp only at hi
  subst hi
  obtain ⟨c', sh', hrun, hiff⟩ := interruptLaw_iff (by decide) (by decide) hsync hfetch
  exact ⟨_, _, c', sh', hrun, hiff.mpr (by decide)⟩

/-- An instruction of coprocessor 1 enters two exceptions in one step, and the
write of `mtc2` to the GTE is lost. -/
theorem interrupt_coprocessors :
    (∃ c' sh', runNextInstruction .idle (interrupted [0x44000000]) .new = .ok (c', sh') ∧
      c'.entered = [.interrupt, .coprocessorError] ∧ c'.cop0.sr = 0x110 ∧
      ∀ p s, ¬InterruptLaw .idle ⟨0x44000000⟩ p s (interrupted [0x44000000]) c' sh') ∧
    ∃ c1 sh1 c2 sh2 d s c' sh',
      (interrupted [0x48810000]).syncPeripherals .idle .new = .ok (c1, sh1) ∧
      fetchInstruction .idle { c1 with currentPc := c1.pc } sh1 = .ok (⟨0x48810000⟩, c2, sh2) ∧
      decodeAndExecute .idle ⟨0x48810000⟩ c2.advance (countInterrupt sh2) = .ok (d, s) ∧
      runNextInstruction .idle (interrupted [0x48810000]) .new = .ok (c', sh') ∧
      d.gte.data 0 = .ok 0xdeadbeef ∧ c'.gte.data 0 = .ok 0 ∧
      ¬InterruptLaw .idle ⟨0x48810000⟩ c2.advance (countInterrupt sh2)
        (interrupted [0x48810000]) c' sh' := by
  constructor
  · obtain ⟨⟨c', sh'⟩, hrun, hobs⟩ := bind_eq_ok.mp
      (show (runNextInstruction .idle (interrupted [0x44000000]) .new >>= fun x =>
          pure (x.1.entered, x.1.cop0.sr)) =
        .ok ([.interrupt, .coprocessorError], 0x110) by decide +kernel)
    injection hobs with hobs
    injection hobs with hent hsr
    refine ⟨c', sh', hrun, hent, hsr, fun p s hlaw => ?_⟩
    exact absurd (hent.symm.trans hlaw.once) (by decide)
  · obtain ⟨⟨c1, s1⟩, hsync, hrest⟩ := bind_eq_ok.mp
      (show ((interrupted [0x48810000]).syncPeripherals .idle .new >>= fun x =>
          fetchInstruction .idle { x.1 with currentPc := x.1.pc } x.2 >>= fun y =>
            decodeAndExecute .idle ⟨0x48810000⟩ y.2.1.advance (countInterrupt y.2.2) >>= fun z =>
              z.1.gte.data 0 >>= fun v => pure (y.1, v)) =
        .ok (⟨0x48810000⟩, 0xdeadbeef) by decide +kernel)
    obtain ⟨⟨i, c2, s2⟩, hfetch, hrest⟩ := bind_eq_ok.mp hrest
    obtain ⟨⟨d, s⟩, hexec, hrest⟩ := bind_eq_ok.mp hrest
    obtain ⟨v, hv, hobs⟩ := bind_eq_ok.mp hrest
    injection hobs with hobs
    injection hobs with hi hobs
    dsimp only at hi hv
    subst hi hobs
    obtain ⟨⟨c', sh'⟩, hrun, hlost⟩ := bind_eq_ok.mp
      (show (runNextInstruction .idle (interrupted [0x48810000]) .new >>= fun x =>
          x.1.gte.data 0) = .ok 0 by decide +kernel)
    refine ⟨c1, s1, c2, s2, d, s, c', sh', hsync, hfetch, hexec, hrun, hv, hlost, fun hlaw => ?_⟩
    obtain ⟨d', s', hexec', rfl, -⟩ := hlaw.gte (by decide)
    rw [hexec] at hexec'
    injection hexec' with heq
    injection heq with heq
    subst heq
    exact absurd (hv.symm.trans hlost) (by decide)

end Cpu

end Rustation
