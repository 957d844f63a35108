import DeltafiClient.Runtime.Number
import DeltafiClient.Runtime.StringToNumber
import DeltafiClient.Runtime.Value
import DeltafiClient.Runtime.Buffer
import DeltafiClient.Runtime.BufferLayout
import DeltafiClient.Source.Layouts
import DeltafiClient.Source.StateLayouts
import DeltafiClient.Source.Struct
import DeltafiClient.Source.Web3
import DeltafiClient.Source.Instructions.Admin
import DeltafiClient.Source.Instructions.Legacy
import DeltafiClient.Source.Instructions.Swap
import DeltafiClient.Wire.Format
import DeltafiClient.Wire.Laws
import DeltafiClient.Wire.Fields
import DeltafiClient.Wire.Fresh
import DeltafiClient.Guarantees.Encoding
import DeltafiClient.Guarantees.Schedules
import DeltafiClient.Guarantees.SwapFamily
import DeltafiClient.Guarantees.FarmFamily
import DeltafiClient.Guarantees.AdminFamily
import DeltafiClient.Guarantees.AccountState
import DeltafiClient.Guarantees.WidthValidation
import DeltafiClient.Guarantees.TextAmounts
