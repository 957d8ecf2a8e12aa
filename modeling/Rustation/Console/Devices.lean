import Rustation.CdRom.Moves
import Rustation.Console.Events
import Rustation.Gpu.ImageLoad

/-!
The peripherals in a running console.

The invariants of the CD-ROM controller, of the GP0 port, of the SPU and of the DMA are
about accesses in any order.  In the console the accesses are those of the program, of
the synchronisations and of the DMA.

* `Peripherals.InOrder`: the invariants together.  Every event keeps them
  (`Event.inOrder`);
* `Cpu.inOrder_of_run`, `Cpu.idle_of_run`: they hold at every instruction of every run.
-/

namespace Rustation

open Fallible

variable {I : CdImage} {μ : Type}

/-- The peripherals are in states that they get into by themselves. -/
structure Peripherals.InOrder (p : Peripherals I μ) : Prop where
  cdRom : CdRom.Reach (fun _ => True) p.cdRom
  gpu : Gp0.Coherent p.gpu.toGp0
  spu : p.spu.InRam
  dma : p.dma.Idle

/-- A transfer sends words to the GPU and takes words from the CD-ROM. -/
lemma Bus.Moves.inOrder {bus bus' : Bus I} (h : Moves bus bus')
    (hbus : CdRom.Reach (fun _ => True) bus.cdRom ∧ Gp0.Coherent bus.gpu.toGp0) :
    CdRom.Reach (fun _ => True) bus'.cdRom ∧ Gp0.Coherent bus'.gpu.toGp0 := by
  induction h with
  | refl => exact hbus
  | tail _ hmove ih =>
      cases hmove with
      | gp0 hgp0 =>
          obtain ⟨r, hgpu, heq⟩ := bind_eq_ok.mp hgp0
          obtain ⟨x, hport, hgpu⟩ := bind_eq_ok.mp hgpu
          cases hgpu
          cases heq
          exact ⟨ih.1, Gp0.gp0_coherent ih.2 hport⟩
      | cdRom hread => exact ⟨ih.1.dmaReadWord hread, ih.2⟩
      | _ => exact ih

/-- A call leaves the peripherals in order. -/
lemma Wiring.Call.inOrder {w : Wiring μ} {C : Prop} {p p' : Peripherals I μ} {sh sh' : SharedState}
    {n : ℕ} (h : w.Call C p sh n p' sh') (hp : p.InOrder) : p'.InOrder := by
  obtain ⟨hcdRom, hgpu, hspu, hdma⟩ := hp
  cases h with
  | gpuSync => exact ⟨hcdRom, Gpu.access_coherent (a := .sync) hgpu rfl, hspu, hdma⟩
  | @gpuStore width offset val _ _ _ _ _ hstore =>
      have hgpu' := Gpu.access_coherent (a := .store p.timers width offset val) hgpu
        (bind_eq_ok.mpr ⟨_, hstore, rfl⟩)
      exact ⟨hcdRom, hgpu', hspu, hdma⟩
  | cdRom haccess => exact ⟨CdRom.reach_access hcdRom haccess, hgpu, hspu, hdma⟩
  | spu haccess => exact ⟨hcdRom, hgpu, hspu.access haccess, hdma⟩
  | dma hpasses =>
      obtain ⟨d, b, hmoves, heq⟩ := hpasses.moves
      obtain ⟨hcdRom', hgpu'⟩ := hmoves.inOrder ⟨hcdRom, hgpu⟩
      exact ⟨heq ▸ hcdRom', heq ▸ hgpu', hspu, hpasses.idle hdma⟩
  | _ => exact ⟨hcdRom, hgpu, hspu, hdma⟩

/-- The step lemma. -/
lemma Interconnect.Event.inOrder {w : Wiring μ} {a : Access} {n : ℕ}
    {s s' : Board I μ} (h : Event w True a s.1 s.2 n s')
    (hp : s.1.devices.InOrder) : s'.1.devices.InOrder := by
  cases h with
  | called ram hcall => exact hcall.inOrder hp
  | memory hdev => exact hdev ▸ hp
  | _ => exact hp

namespace Cpu

variable {w : Wiring μ} {standard : VideoClock} {bios : Bios} {disc : Option (Disc I)}
  {parallelIo : μ} {c : Cpu (Peripherals I μ)} {sh : SharedState} {n : ℕ}

lemma inter_inOrder
    (h : runFor w.devices n (powerOn standard bios disc parallelIo) = .ok (c, sh)) :
    c.inter.devices.InOrder := by
  refine runFor_keeps (P := fun s => s.1.devices.InOrder) (fun a s s' hs hstep => ?_)
    ⟨.new disc, Gp0.coherent_new, show 0 < SPU_RAM_SIZE by decide, fun _ => rfl⟩ h
  exact Interconnect.perform_keeps (fun hevent => hevent.inOrder) hstep hs

/-- **The peripherals stay in order.**  At every instruction of every run of the console, whatever
the program does: no access of the CD-ROM controller fails an assertion or loops, the image buffer
of the GPU is not left and a load waits for exactly the rest of its image, and the SPU transfers to
its RAM. -/
theorem inOrder_of_run
    (h : runFor w.devices n (powerOn standard bios disc parallelIo) = .ok (c, sh)) :
    (∀ sh a, Post CdRom.Explicit (c.inter.devices.cdRom.access sh a) fun _ => True) ∧
      Gp0.Coherent c.inter.devices.gpu.toGp0 ∧ c.inter.devices.spu.InRam := by
  have hp := inter_inOrder h
  exact ⟨fun sh a => CdRom.post_access hp.cdRom.sequenced sh a, hp.gpu, hp.spu⟩

/-- `lui $1, 0x1f80`, `lui $2, 0x1100` and `sw $2, 0x10e8($1)` start a transfer of no words. -/
def starting : Console noImage Unit :=
  powerOn .ntsc (.ofWords [0x3c011f80, 0x3c021100, 0xac2210e8]) none ()

lemma starting_runs : ∃ c sh, runFor Wiring.bare.devices 3 starting = .ok (c, sh) := by
  obtain ⟨⟨c, sh⟩, hrun, -⟩ := bind_eq_ok.mp
    (show (runFor Wiring.bare.devices 3 starting >>= fun _ => pure ()) = .ok () by decide +kernel)
  exact ⟨c, sh, hrun⟩

theorem inOrder_of_run_starting : ∃ c sh, runFor Wiring.bare.devices 3 starting = .ok (c, sh) ∧
    (∀ sh a, Post CdRom.Explicit (c.inter.devices.cdRom.access sh a) fun _ => True) ∧
      Gp0.Coherent c.inter.devices.gpu.toGp0 ∧ c.inter.devices.spu.InRam := by
  obtain ⟨c, sh, hrun⟩ := starting_runs
  exact ⟨c, sh, hrun, inOrder_of_run hrun⟩

end Cpu

end Rustation
