-- Names of the pictographs of sound, tools, shapes, clocks and other objects.

namespace Stencil.Emoji

/-- Each emoji with its names. -/
def signs : List (String × List String) := [
  ("🔀", ["shuffle_tracks_button", "twisted_rightwards_arrows"]),
  ("🔁", ["repeat", "repeat_button"]), ("🔂", ["repeat_one", "repeat_single_button"]),
  ("🔃", ["arrows_clockwise", "clockwise_vertical_arrows"]),
  ("🔄", ["arrows_counterclockwise", "counterclockwise_arrows_button"]),
  ("🔅", ["dim_button", "low_brightness"]), ("🔆", ["bright_button", "high_brightness"]),
  ("🔇", ["mute", "muted_speaker"]), ("🔈", ["speaker", "speaker_low_volume"]),
  ("🔉", ["sound", "speaker_medium_volume"]), ("🔊", ["loud_sound", "speaker_high_volume"]),
  ("🔋", ["battery"]), ("🔌", ["electric_plug"]), ("🔍", ["mag", "magnifying_glass_tilted_left"]),
  ("🔎", ["mag_right", "magnifying_glass_tilted_right"]),
  ("🔏", ["lock_with_ink_pen", "locked_with_pen"]),
  ("🔐", ["closed_lock_with_key", "locked_with_key"]), ("🔑", ["key"]), ("🔒", ["lock", "locked"]),
  ("🔓", ["unlock", "unlocked"]), ("🔔", ["bell"]), ("🔕", ["bell_with_slash", "no_bell"]),
  ("🔖", ["bookmark"]), ("🔗", ["link"]), ("🔘", ["radio_button"]), ("🔙", ["back", "back_arrow"]),
  ("🔚", ["end", "end_arrow"]), ("🔛", ["on", "on!_arrow"]), ("🔜", ["soon", "soon_arrow"]),
  ("🔝", ["top", "top_arrow"]), ("🔞", ["no_one_under_eighteen", "underage"]),
  ("🔟", ["keycap_10", "ten"]), ("🔠", ["capital_abcd", "input_latin_uppercase"]),
  ("🔡", ["abcd", "input_latin_lowercase"]), ("🔢", ["1234", "input_numbers"]),
  ("🔣", ["input_symbols", "symbols"]), ("🔤", ["abc", "input_latin_letters"]), ("🔥", ["fire"]),
  ("🔦", ["flashlight"]), ("🔧", ["wrench"]), ("🔨", ["hammer"]), ("🔩", ["nut_and_bolt"]),
  ("🔪", ["hocho", "kitchen_knife", "knife"]), ("🔫", ["gun", "pistol"]), ("🔬", ["microscope"]),
  ("🔭", ["telescope"]), ("🔮", ["crystal_ball"]),
  ("🔯", ["dotted_six-pointed_star", "six_pointed_star"]),
  ("🔰", ["beginner", "japanese_symbol_for_beginner"]), ("🔱", ["trident", "trident_emblem"]),
  ("🔲", ["black_square_button"]), ("🔳", ["white_square_button"]), ("🔴", ["red_circle"]),
  ("🔵", ["blue_circle", "large_blue_circle"]), ("🔶", ["large_orange_diamond"]),
  ("🔷", ["large_blue_diamond"]), ("🔸", ["small_orange_diamond"]), ("🔹", ["small_blue_diamond"]),
  ("🔺", ["red_triangle_pointed_up", "small_red_triangle"]),
  ("🔻", ["red_triangle_pointed_down", "small_red_triangle_down"]),
  ("🔼", ["arrow_up_small", "upwards_button"]), ("🔽", ["arrow_down_small", "downwards_button"]),
  ("🕉", ["om", "om_symbol"]), ("🕊", ["dove", "dove_of_peace"]), ("🕋", ["kaaba"]),
  ("🕌", ["mosque"]), ("🕍", ["synagogue"]), ("🕎", ["menorah", "menorah_with_nine_branches"]),
  ("🕐", ["clock1", "one_o’clock"]), ("🕑", ["clock2", "two_o’clock"]),
  ("🕒", ["clock3", "three_o’clock"]), ("🕓", ["clock4", "four_o’clock"]),
  ("🕔", ["clock5", "five_o’clock"]), ("🕕", ["clock6", "six_o’clock"]),
  ("🕖", ["clock7", "seven_o’clock"]), ("🕗", ["clock8", "eight_o’clock"]),
  ("🕘", ["clock9", "nine_o’clock"]), ("🕙", ["clock10", "ten_o’clock"]),
  ("🕚", ["clock11", "eleven_o’clock"]), ("🕛", ["clock12", "twelve_o’clock"]),
  ("🕜", ["clock130", "one-thirty"]), ("🕝", ["clock230", "two-thirty"]),
  ("🕞", ["clock330", "three-thirty"]), ("🕟", ["clock430", "four-thirty"]),
  ("🕠", ["clock530", "five-thirty"]), ("🕡", ["clock630", "six-thirty"]),
  ("🕢", ["clock730", "seven-thirty"]), ("🕣", ["clock830", "eight-thirty"]),
  ("🕤", ["clock930", "nine-thirty"]), ("🕥", ["clock1030", "ten-thirty"]),
  ("🕦", ["clock1130", "eleven-thirty"]), ("🕧", ["clock1230", "twelve-thirty"]), ("🕯", ["candle"]),
  ("🕰", ["mantelpiece_clock"]), ("🕳", ["hole"]),
  ("🕴", ["man_in_business_suit_levitating", "man_in_suit_levitating"]),
  ("🕵", ["detective", "sleuth_or_spy"]), ("🕶", ["dark_sunglasses"]), ("🕷", ["spider"]),
  ("🕸", ["spider_web"]), ("🕹", ["joystick"]), ("🕺", ["man_dancing"]),
  ("🖇", ["linked_paperclips"]), ("🖊", ["lower_left_ballpoint_pen", "pen"]),
  ("🖋", ["fountain_pen", "lower_left_fountain_pen"]),
  ("🖌", ["lower_left_paintbrush", "paintbrush"]), ("🖍", ["crayon", "lower_left_crayon"]),
  ("🖐", ["hand_with_fingers_splayed", "raised_hand_with_fingers_splayed"]),
  ("🖕", ["middle_finger", "reversed_hand_with_middle_finger_extended"]),
  ("🖖", ["raised_hand_with_part_between_middle_and_ring_fingers", "vulcan_salute"]),
  ("🖤", ["black_heart"]), ("🖥", ["desktop_computer"]), ("🖨", ["printer"]),
  ("🖱", ["computer_mouse", "three_button_mouse"]), ("🖲", ["trackball"]),
  ("🖼", ["frame_with_picture", "framed_picture"]), ("🗂", ["card_index_dividers"]),
  ("🗃", ["card_file_box"]), ("🗄", ["file_cabinet"]), ("🗑", ["wastebasket"]),
  ("🗒", ["spiral_note_pad", "spiral_notepad"]), ("🗓", ["spiral_calendar", "spiral_calendar_pad"]),
  ("🗜", ["clamp", "compression"]), ("🗝", ["old_key"]),
  ("🗞", ["rolled-up_newspaper", "rolled__up_newspaper"]), ("🗡", ["dagger", "dagger_knife"]),
  ("🗣", ["speaking_head", "speaking_head_in_silhouette"]), ("🗨", ["left_speech_bubble"]),
  ("🗯", ["right_anger_bubble"]), ("🗳", ["ballot_box_with_ballot"]), ("🗺", ["world_map"]),
  ("🗻", ["mount_fuji"]), ("🗼", ["tokyo_tower"]), ("🗽", ["statue_of_liberty"]),
  ("🗾", ["japan", "map_of_japan"]), ("🗿", ["moai", "moyai"])]

end Stencil.Emoji
