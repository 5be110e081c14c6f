import QueueSupply.Config.Lookup
import QueueSupply.Supplier.Hook
import QueueSupply.Supplier.Table

set_option autoImplicit false

namespace QueueSupply

structure Supplier (E : Type) where
  kind : SupplierKind
  config : Config
  hook : Hook E

namespace Supplier

variable {E : Type}

def get (s : Supplier E) (calls : Nat) : AnyQueue E × Nat :=
  s.hook.run calls (s.kind.build s.config)

instance : Describe (Supplier E) where
  describe s :=
    describeRecord "QueueSupplier" [("kind", describe s.kind), ("hook", describe s.hook)]

end Supplier

structure Factory (E : Type) where
  config : Config
  table : SupplierTable
  hook : Hook E

namespace Factory

variable {E : Type}

def ofConfig (c : Config) (hook : Hook E) : Factory E := ⟨c, .ofConfig c, hook⟩

def shared (env : Environment) : Factory E := ofConfig (Config.shared env) .identity

def supplier (f : Factory E) (kind : SupplierKind) : Supplier E := ⟨kind, f.config, f.hook⟩

def supplierFor (f : Factory E) (requested : UInt64) : Supplier E :=
  f.supplier (f.table.resolve requested)

def unboundedLinked (f : Factory E) (linkSize : UInt64) : Supplier E :=
  f.supplier (f.table.resolveLinked linkSize)

def unboundedMultiProducer (f : Factory E) : Supplier E := f.supplier .unboundedMultiProducer

def empty (f : Factory E) : Supplier E := f.supplier .empty

def one (f : Factory E) : Supplier E := f.supplier .one

def xs (f : Factory E) : Supplier E := f.supplier .xs

def small (f : Factory E) : Supplier E := f.supplier .small

def unbounded (f : Factory E) : Supplier E := f.supplier .smallUnbounded

instance : Describe (Factory E) where
  describe f :=
    describeRecord "Queues"
      [("config", describe f.config), ("table", describe f.table), ("hook", describe f.hook)]

end Factory

end QueueSupply
