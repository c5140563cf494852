import AtomData.Record
import AtomData.Session
import AtomData.Proofs.Schema.Supertype
import AtomData.Proofs.Query.Path
import AtomData.Proofs.Query.Option
import AtomData.Proofs.Query.Ending
import AtomData.Proofs.Key
import AtomData.Proofs.Feed.Entry
import AtomData.Proofs.Session.Independence
import AtomData.Proofs.Session.Origin
import AtomData.Proofs.Schema.Document
import AtomData.Proofs.Schema.FullName
import AtomData.Proofs.Schema.Listing
import AtomData.Proofs.Schema.Resolution
import AtomData.Proofs.Feed.OwnKey
import AtomData.Proofs.Record
import AtomData.Proofs.Service.Lookup
import AtomData.Proofs.Query.First
import AtomData.Proofs.Query.Item
import AtomData.Proofs.Coercion.Kind
import AtomData.Proofs.Entity
import AtomData.Proofs.Text.Digits
import AtomData.Proofs.Time.Literal
import AtomData.Proofs.Coercion.Canonical
